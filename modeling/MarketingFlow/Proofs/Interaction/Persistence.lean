import MarketingFlow.Proofs.Interaction.Retrying

/-!
# Calling again

A failure whose kind says that it may pass matches the kinds that are retried, whatever its message
is. After such a failure there is another call as long as attempts are left and the pause before it
can be computed. A pause that cannot be computed is the end, whatever the failure was.
-/

namespace MarketingFlow

/-! ## Failures that may pass -/

def RemoteKind.mayPass : RemoteKind → Bool
  | rateLimited => true
  | server => true
  | network => true
  | _ => false

/-- The kind is the failure's own, and one of those that may pass by themselves. -/
def Failure.MayPass (f : Failure) : Prop :=
  f.kindOverride = none ∧ f.remoteKind?.any RemoteKind.mayPass = true

theorem RemoteKind.name_mem_transient {kind : RemoteKind} (h : kind.mayPass = true) :
    kind.name ∈ RetryOptions.transient := by
  revert h
  cases kind <;> decide

theorem RemoteKind.name_ne_empty (kind : RemoteKind) : kind.name ≠ "" := by
  cases kind <;> decide

theorem Failure.MayPass.isRetryable {f : Failure} (h : f.MayPass) :
    f.isRetryable RetryOptions.transient = true := by
  obtain ⟨hown, hpass⟩ := h
  obtain ⟨kind, hkind, hpass⟩ := (Option.any_eq_true _ _).mp hpass
  have htext : f.kindText = kind.name := by
    obtain ⟨cause, _, notes⟩ := f
    subst hown
    cases cause with
    | remote => cases hkind; rfl
    | _ => cases hkind
  apply (f.isRetryable_iff _).mpr
  refine .inr ⟨kind.name, RemoteKind.name_mem_transient hpass, .inr (.inr ?_)⟩
  rw [htext]
  exact ⟨kind.name_ne_empty, List.infix_rfl⟩

namespace Trial

variable {δ α : Type} [Duration δ] (outcomes : Nat → Except Failure α) (label : String)
  (o : RetryOptions δ)

/-- What comes after the call with the number `i`, of `k` calls in all: the result, if it settles
the matter; another call, after a pause; or the end, if the pause cannot be computed. -/
inductive Continues (k : Nat) (result : Except Failure α) (i : Nat) : Prop where
  | conclude (h : o.Settles outcomes i) (hi : i = k)
    (hr : o.Concludes label i (outcomes i) result)
  | call (h : ¬o.Settles outcomes i) (pause : δ) (hpause : o.delayAfter i = .ok pause) (hi : i < k)
  | stop (h : ¬o.Settles outcomes i) (e : Failure) (hpause : o.delayAfter i = .error e) (hi : i = k)
    (hr : result = .error e)

section

variable {outcomes label o} {k i : Nat} {result : Except Failure α}

end

end Trial

end MarketingFlow
