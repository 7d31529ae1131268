import MarketingFlow.Proofs.Interaction.Traces

/-!
# Tasks with more in their state

`t.Mirrors f t'` says that the task `t` goes as the task `t'` does, where `f` forgets what `t` keeps
in its state besides: the same calls, the same result, and the same state apart from what is
forgotten. There is one rule for each way to make a task.
-/

namespace MarketingFlow.Task

variable {σ τ α β : Type}

def Mirrors (f : τ → σ) (t : Task τ α) (t' : Task σ α) : Prop :=
  ∀ s, (t.start s).bind (fun x => .done (x.1, f x.2)) = t'.start (f s)

variable {f : τ → σ} {t : Task τ α} {t' : Task σ α}

theorem Mirrors.run_iff (h : t.Mirrors f t') {s : τ} {u : List (Event World)}
    {r : Except Failure α} {y : σ} :
    t'.Run (f s) u r y ↔ ∃ s', t.Run s u r s' ∧ f s' = y := by
  rw [Run, ← h s]
  constructor
  · intro hrun
    obtain ⟨v, w, ⟨r', s'⟩, rfl, ht, hend⟩ := hrun.of_bind_done
    obtain ⟨rfl, hend⟩ := Program.Reaches.of_done hend
    cases hend
    exact ⟨s', (List.append_nil v).symm ▸ ht, rfl⟩
  · rintro ⟨s', hrun, rfl⟩
    rw [← List.append_nil u]
    exact (hrun.bind _).trans (.here _)

theorem Mirrors.ofExcept (r : Except Failure α) :
    (Task.ofExcept r : Task τ α).Mirrors f (Task.ofExcept r) :=
  fun _ => rfl

theorem Mirrors.ask (c : World.Call) : (Task.ask c : Task τ c.Answer).Mirrors f (Task.ask c) :=
  fun _ => rfl

theorem Mirrors.bind {g : α → Task τ β} {g' : α → Task σ β} (h : t.Mirrors f t')
    (hg : ∀ a, (g a).Mirrors f (g' a)) : (t >>= g).Mirrors f (t' >>= g') := by
  intro s
  rw [start_bind, start_bind, Program.bind_assoc, ← h s, Program.bind_assoc]
  congr 1
  funext x
  rcases x with ⟨e | a, s⟩
  · rfl
  · exact hg a s

theorem Mirrors.get_bind {g : τ → Task τ β} {g' : σ → Task σ β}
    (hg : ∀ s, (g s).Mirrors f (g' (f s))) : (get >>= g).Mirrors f (get >>= g') :=
  fun s => hg s s

theorem Mirrors.result (h : t.Mirrors f t') : t.result.Mirrors f t'.result := by
  intro s
  rw [start_result, start_result, Program.bind_assoc, ← h s, Program.bind_assoc]
  rfl

theorem Mirrors.attempt (h : t.Mirrors f t') (label : String) (o : RetryOptions Number)
    (n left : Nat) : (t.attempt label o n left).Mirrors f (t'.attempt label o n left) := by
  induction left using Nat.strongRecOn generalizing n with
  | ind left ih =>
    rw [attempt_eq, attempt_eq]
    apply h.result.bind
    rintro (e | a)
    · rw [afterAttempt.eq_def, afterAttempt.eq_def]
      dsimp only
      split
      · exact (Mirrors.ask _).bind fun _ => .ofExcept _
      · cases left with
        | zero => exact (Mirrors.ask _).bind fun _ => .ofExcept _
        | succ left =>
          dsimp only
          cases o.delayAfter n with
          | error e' => exact .ofExcept _
          | ok delay =>
            apply (Mirrors.ask _).bind
            intro _
            apply (Mirrors.ask _).bind
            intro _
            exact ih left (Nat.lt_succ_self left) (n + 1)
    · rw [afterAttempt.eq_def, afterAttempt.eq_def]
      dsimp only
      split
      · exact (Mirrors.ask _).bind fun _ => .ofExcept _
      · exact .ofExcept _

theorem Mirrors.retry (h : t.Mirrors f t') (label : String) (o : RetryOptions Number) :
    (t.retry label o).Mirrors f (t'.retry label o) :=
  h.attempt label o 1 _

end MarketingFlow.Task
