import MarketingFlow.Proofs.Interaction.Traces

/-!
# The states of a task

`t.Leads I P` says that every run of the task `t` from a state with `I` that ends has `P` of its
result and its last state, whatever the answers were. There is one rule for each way to make a task.
-/

namespace MarketingFlow.Task

variable {σ τ α β : Type}

def Leads (I : σ → Prop) (t : Task σ α) (P : Except Failure α → σ → Prop) : Prop :=
  ∀ s, I s → ∀ u r s', t.Run s u r s' → P r s'

variable {I : σ → Prop} {t : Task σ α} {P : Except Failure α → σ → Prop}
  {Q : Except Failure β → σ → Prop}

theorem Leads.mono {R : Except Failure α → σ → Prop} (h : t.Leads I P)
    (hPR : ∀ r s, P r s → R r s) : t.Leads I R :=
  fun s hs u r s' hr => hPR r s' (h s hs u r s' hr)

theorem Leads.weaken {J : σ → Prop} (h : t.Leads I P) (hJ : ∀ s, J s → I s) : t.Leads J P :=
  fun s hs => h s (hJ s hs)

theorem Leads.anything : t.Leads I fun _ _ => True :=
  fun _ _ _ _ _ _ => trivial

/-- A property of results alone may be known from the traces. -/
theorem Traces.leads {R : Except Failure α → Prop} (h : t.Traces fun _ r => R r) :
    t.Leads I fun r _ => R r :=
  fun s _ u r s' hr => h s u r s' hr

theorem Leads.ofExcept {r : Except Failure α} (h : ∀ s, I s → P r s) :
    (ofExcept r : Task σ α).Leads I P := by
  intro s hs u r' s' hr
  obtain ⟨-, rfl, rfl⟩ := run_ofExcept hr
  exact h s' hs

theorem Leads.pure {a : α} (h : ∀ s, I s → P (.ok a) s) : (pure a : Task σ α).Leads I P :=
  Leads.ofExcept h

theorem Leads.throw {e : Failure} (h : ∀ s, I s → P (.error e) s) :
    (throw e : Task σ α).Leads I P :=
  Leads.ofExcept h

theorem Leads.bind {f : α → Task σ β} (h : t.Leads I P)
    (hok : ∀ a, (f a).Leads (P (.ok a)) Q) (herror : ∀ e s, P (.error e) s → Q (.error e) s) :
    (t >>= f).Leads I Q := by
  intro s hs u r s' hr
  rcases run_bind hr with ⟨v, w, a, s₁, rfl, ht, hf⟩ | ⟨e, rfl, ht⟩
  · exact hok a s₁ (h s hs v _ s₁ ht) w r s' hf
  · exact herror e s' (h s hs u _ s' ht)

theorem Leads.result_bind {f : Except Failure α → Task σ β} (h : t.Leads I P)
    (hf : ∀ r, (f r).Leads (P r) Q) : (t.result >>= f).Leads I Q := by
  intro s hs u r s' hr
  obtain ⟨v, w, x, s₁, rfl, ht, hrest⟩ := run_result_bind hr
  exact hf x s₁ (h s hs v x s₁ ht) w r s' hrest

theorem Leads.ofExcept_bind {r : Except Failure α} {f : α → Task σ β}
    (hok : ∀ a, r = .ok a → (f a).Leads I Q)
    (herror : ∀ e, r = .error e → ∀ s, I s → Q (.error e) s) :
    (Task.ofExcept r >>= f).Leads I Q := by
  cases r with
  | ok a => exact hok a rfl
  | error e => exact .throw (herror e rfl)

theorem Leads.get_bind {f : σ → Task σ β} (h : ∀ s, I s → (f s).Leads (· = s) Q) :
    (MonadState.get >>= f : Task σ β).Leads I Q :=
  fun s hs u r s' hr => h s hs s rfl u r s' (run_get_bind hr)

theorem Leads.ask_bind {c : World.Call} {f : c.Answer → Task σ β}
    (h : ∀ answer, (f answer).Leads I Q) : (ask c >>= f).Leads I Q := by
  intro s hs u r s' hr
  obtain ⟨answer, v, rfl, hrest⟩ := run_ask_bind hr
  exact h answer s hs v r s' hrest

theorem Leads.within {J : τ → Prop} {R : Except Failure α → τ → Prop} {part : τ → σ}
    {replace : τ → σ → τ} (h : t.Leads I P) (hpart : ∀ s, J s → I (part s))
    (hreplace : ∀ r s x, J s → P r x → R r (replace s x)) :
    (t.within part replace).Leads J R := by
  intro s hs u r s' hr
  obtain ⟨x, ht, rfl⟩ := run_within hr
  exact hreplace r s x hs (h (part s) (hpart s hs) u r x ht)

section

variable {Q : Except Failure α → σ → Prop} {label : String} {o : RetryOptions Number}
  (ht : t.Leads I P) (hok : ∀ a s, P (.ok a) s → Q (.ok a) s)
  (hagain : ∀ e s, P (.error e) s → I s)
  (hfail : ∀ e note s, P (.error e) s → Q (.error (e.addNote note)) s)
  (hpause : ∀ e e' s (n : Nat), P (.error e) s → o.delayAfter n = .error e' → Q (.error e') s)

include ht hok hagain hfail hpause

theorem Leads.attempt (n left : Nat) : (t.attempt label o n left).Leads I Q := by
  induction left using Nat.strongRecOn generalizing n with
  | ind left ih =>
    rw [attempt_eq]
    refine ht.result_bind ?_
    rintro (e | a)
    · rw [afterAttempt.eq_def]
      dsimp only
      split
      · exact .ask_bind fun _ => .throw (hfail e _)
      · cases left with
        | zero => exact .ask_bind fun _ => .throw (hfail e _)
        | succ left =>
          dsimp only
          cases hdelay : o.delayAfter n with
          | error e' => exact .throw fun s hs => hpause e e' s n hs hdelay
          | ok delay =>
            refine .ask_bind fun _ => .ask_bind fun _ => ?_
            exact fun s hs => ih left (Nat.lt_succ_self left) (n + 1) s (hagain e s hs)
    · rw [afterAttempt.eq_def]
      dsimp only
      split
      · exact .ask_bind fun _ => .pure (hok a)
      · exact .pure (hok a)

/-- Of attempts that each restore `I` for the next one when they fail. -/
theorem Leads.retry : (t.retry label o).Leads I Q := by
  rw [retry_eq]
  exact Leads.attempt ht hok hagain hfail hpause 1 _

end

end MarketingFlow.Task
