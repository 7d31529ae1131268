import MarketingFlow.Proofs.Interaction.Exchanges
import MarketingFlow.Proofs.Interaction.Habits

/-!
# Tallies

A task keeps a tally if a number that can be read off its state grows by one with every exchange of
a certain kind, and with nothing else. There is one rule for each way to make a task.
-/

namespace MarketingFlow.Task

variable {σ τ α β : Type} {p : Exchange → Bool} {count : σ → Nat}

def Tallies (p : Exchange → Bool) (count : σ → Nat) (t : Task σ α) : Prop :=
  ∀ s u r s', t.Run s u r s' → count s' = count s + (exchanges u).countP p

/-- Nothing is exchanged and the state stays. -/
theorem Tallies.still {t : Task σ α} (h : ∀ s, ∃ r, t.start s = .done (r, s)) :
    t.Tallies p count := by
  intro s u r s' hr
  obtain ⟨r', hstart⟩ := h s
  rw [Run, hstart] at hr
  obtain ⟨rfl, hend⟩ := Program.Reaches.of_done hr
  cases hend
  rfl

@[grind ←] theorem Tallies.ofExcept (r : Except Failure α) :
    (ofExcept r : Task σ α).Tallies p count :=
  .still fun _ => ⟨_, rfl⟩

@[grind ←] theorem Tallies.pure (a : α) : (pure a : Task σ α).Tallies p count :=
  .still fun _ => ⟨_, rfl⟩

@[grind ←] theorem Tallies.throw (e : Failure) : (throw e : Task σ α).Tallies p count :=
  .still fun _ => ⟨_, rfl⟩

@[grind ←] theorem Tallies.get : (get : Task σ σ).Tallies p count :=
  .still fun _ => ⟨_, rfl⟩

section

variable {t : Task σ α} {f : α → Task σ β}

@[grind ←] theorem Tallies.bind (h : t.Tallies p count) (hf : ∀ a, (f a).Tallies p count) :
    (t >>= f).Tallies p count := by
  intro s u r s' hr
  rcases run_bind hr with ⟨v, w, a, s₁, rfl, ht, hrest⟩ | ⟨e, rfl, ht⟩
  · rw [hf a s₁ w r s' hrest, h s v _ s₁ ht, exchanges_append, List.countP_append, Nat.add_assoc]
  · exact h s u _ s' ht

@[grind ←] theorem Tallies.result (h : t.Tallies p count) : t.result.Tallies p count := by
  intro s u r s' hr
  rw [Run, start_result] at hr
  obtain ⟨v, w, ⟨x, s₁⟩, rfl, ht, hend⟩ := hr.of_bind_done
  obtain ⟨rfl, hend⟩ := Program.Reaches.of_done hend
  cases hend
  rw [List.append_nil]
  exact h s v x s₁ ht

theorem Tallies.ofExcept_bind {r : Except Failure α}
    (h : ∀ a, r = .ok a → (f a).Tallies p count) :
    (Task.ofExcept r >>= f).Tallies p count := by
  cases r with
  | ok a => exact h a rfl
  | error e => exact .throw e

theorem Tallies.ask_bind {c : World.Call} {f : c.Answer → Task σ β}
    (hc : ∀ answer, (exchanges [⟨c, answer⟩]).countP p = 0)
    (hf : ∀ answer, (f answer).Tallies p count) : (Task.ask c >>= f).Tallies p count := by
  intro s u r s' hr
  obtain ⟨answer, v, rfl, hrest⟩ := run_ask_bind hr
  have hfirst : exchanges (⟨c, answer⟩ :: v) = exchanges [⟨c, answer⟩] ++ exchanges v :=
    exchanges_append [⟨c, answer⟩] v
  rw [hf answer s v r s' hrest, hfirst, List.countP_append, hc answer, Nat.zero_add]

theorem Tallies.ask (c : World.Call) [c.Unsent] :
    (Task.ask c : Task σ c.Answer).Tallies p count := by
  have hbind : (Task.ask c >>= Pure.pure : Task σ c.Answer).Tallies p count := by
    refine .ask_bind (fun answer => ?_) fun answer => .pure answer
    rw [exchanges_cons_unsent]
    rfl
  rwa [bind_pure] at hbind

@[grind ←] theorem Tallies.log (level : Level) (text : String) :
    (log level text : Task σ Unit).Tallies p count :=
  .ask _

@[grind ←] theorem Tallies.sleep (seconds : Number) :
    (sleep seconds : Task σ Unit).Tallies p count :=
  .ask _

@[grind ←] theorem Tallies.retry {label : String} {o : RetryOptions Number}
    (h : t.Tallies p count) : (t.retry label o).Tallies p count := by
  have hattempt : ∀ left n, (t.attempt label o n left).Tallies p count := by
    intro left
    induction left using Nat.strongRecOn with
    | ind left ih =>
      intro n
      rw [attempt_eq]
      apply h.result.bind
      rintro (f | a)
      · rw [afterAttempt.eq_def]
        dsimp only
        split
        · exact (Tallies.log _ _).bind fun _ => .throw _
        · split
          · exact (Tallies.log _ _).bind fun _ => .throw _
          · split
            · exact .throw _
            · apply (Tallies.log _ _).bind
              intro _
              exact (Tallies.sleep _).bind fun _ => ih _ (Nat.lt_succ_self _) _
      · rw [afterAttempt.eq_def]
        dsimp only
        split
        · exact (Tallies.log _ _).bind fun _ => .pure a
        · exact .pure a
  exact hattempt _ 1

/-- The number for the whole is the one for the part, as far as the part goes. -/
theorem Tallies.within {t : Task τ α} {part : σ → τ} {replace : σ → τ → σ} {count' : τ → Nat}
    (h : t.Tallies p count')
    (hcount : ∀ s x, count (replace s x) + count' (part s) = count s + count' x) :
    (t.within part replace).Tallies p count := by
  intro s u r s' hr
  obtain ⟨x, ht, rfl⟩ := run_within hr
  have hx := h (part s) u r x ht
  have hs := hcount s x
  omega

/-- A task without exchanges of the kind keeps a tally of nothing. -/
theorem Calls.tallies {P : World.Call → Prop} (h : t.Calls P)
    (hP : ∀ e : Exchange, P (.send e.request) → p e = false) : t.Tallies p fun _ => 0 := by
  intro s u r s' hr
  have hnone : (exchanges u).countP p = 0 := by
    apply List.countP_eq_zero.mpr
    intro e he
    rw [hP e ((Calls.ensures h).reaches hr e he)]
    exact Bool.false_ne_true
  rw [hnone]

end

/-- To keep the tally. -/
def tally (p : Exchange → Bool) (count : σ → Nat) : LocalHabit σ where
  Has t := t.Tallies p count
  still := .still
  log := .log
  sleep := .sleep
  bind := .bind
  result := .result

end MarketingFlow.Task
