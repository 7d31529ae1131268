import MarketingFlow.Interaction.World
import MarketingFlow.Proofs.Interaction.Calls

/-!
# What tasks do

`Guards` and `Asks` for tasks, whatever the state they start in: `t.Holds M Q g` says that the
monitor `M` refuses nothing in state `g` and that `Q` holds at the end of the last state and the
result, which may be a failure; `t.Calls P` says that `P` holds of all calls of `t`. There is one
rule for each way to make a task.
-/

namespace MarketingFlow

/-- The monitor does not mind messages that are worth keeping, nor those that an answer has come. -/
structure Monitor.Attentive (M : Monitor World) : Prop where
  log : ∀ level text answer, level ≠ .debug → M.Ignores ⟨.log level text, answer⟩
  response : ∀ text answer, M.Ignores ⟨.log .debug ("API response: " ++ text), answer⟩

/-- It does not mind pauses either. -/
structure Monitor.Discreet (M : Monitor World) : Prop extends M.Attentive where
  sleep : ∀ seconds answer, M.Ignores ⟨.sleep seconds, answer⟩

/-- The level of messages that are worth keeping. -/
class Level.Notable (level : Level) : Prop where
  ne_debug : level ≠ .debug

instance : Level.info.Notable := ⟨by decide⟩

instance : Level.warning.Notable := ⟨by decide⟩

instance : Level.error.Notable := ⟨by decide⟩

/-- Calls that fulfil `P` are allowed in the state and leave it as it is. -/
def Monitor.Keeps (M : Monitor World) (P : World.Call → Prop) (g : M.State) : Prop :=
  ∀ c answer, P c → M.allows g ⟨c, answer⟩ ∧ M.next g ⟨c, answer⟩ = g

/-- Pauses and messages are among the calls that fulfil `P`. -/
class World.Call.Talks (P : World.Call → Prop) : Prop where
  log : ∀ level text, P (.log level text)
  sleep : ∀ seconds, P (.sleep seconds)

namespace Task

variable {σ τ α β : Type}

/-! ## The program of a task -/

/-- What follows a task: what its result is passed to, or nothing after a failure. -/
def andThen (f : α → Task σ β) : Except Failure α × σ → Program World (Except Failure β × σ)
  | (.ok a, s) => (f a).start s
  | (.error e, s) => .done (.error e, s)

theorem start_bind (t : Task σ α) (f : α → Task σ β) (s : σ) :
    (t >>= f).start s = (t.start s).bind (andThen f) := by
  change (t.start s).bind _ = _
  congr 1
  funext x
  rcases x with ⟨e | a, s⟩ <;> rfl

theorem start_result (t : Task σ α) (s : σ) :
    t.result.start s = (t.start s).bind fun x => .done (.ok x.1, x.2) := rfl

theorem start_within (t : Task σ α) (part : τ → σ) (replace : τ → σ → τ) (s : τ) :
    (t.within part replace).start s =
      (t.start (part s)).bind fun x => .done (x.1, replace s x.2) := rfl

/-- One attempt of a task that is made again, and what follows it. -/
def attempt (t : Task σ α) (label : String) (o : RetryOptions Number) (n left : Nat) : Task σ α :=
  ExceptT.mk (attemptFrom t.run label o n left)

theorem retry_eq (t : Task σ α) (label : String) (o : RetryOptions Number) :
    t.retry label o = t.attempt label o 1 (o.attempts - 1) := rfl

/-- What follows the attempt with the number `n`. -/
def afterAttempt (t : Task σ α) (label : String) (o : RetryOptions Number) (n left : Nat) :
    Except Failure α → Task σ α
  | .ok a => do
    if 1 < n then log .info (label ++ " succeeded on attempt " ++ toString n)
    pure a
  | .error f =>
    if !f.isRetryable o.retryable then do
      log .error (label ++ " failed with non-retryable error: " ++ f.message)
      throw (f.addNote (label ++ ": non-retryable failure on attempt " ++ toString n))
    else
      match left with
      | 0 => do
        log .error (label ++ " failed after " ++ toString n ++ " attempts: " ++ f.message)
        throw (f.addNote (label ++ ": failed after " ++ toString n ++ " attempt(s)"))
      | left + 1 =>
        match o.delayAfter n with
        | .error overflow => throw overflow
        | .ok delay => do
          log .warning
            (label ++ " failed (attempt " ++ toString n ++ "/" ++ toString (n + left + 1) ++
              "): " ++ f.message ++ ". Retrying in " ++ Duration.show2 delay ++ "s...")
          sleep delay
          t.attempt label o (n + 1) left

theorem attempt_eq (t : Task σ α) (label : String) (o : RetryOptions Number) (n left : Nat) :
    t.attempt label o n left = t.result >>= t.afterAttempt label o n left := by
  change ExceptT.mk _ = _
  rw [attemptFrom.eq_def]
  funext s
  change (t.start s).bind _ = (_ : Task σ α).start s
  rw [start_bind, start_result, Program.bind_assoc]
  congr 1
  funext x
  rcases x with ⟨f | a, s⟩
  · simp only [Program.bind, andThen, afterAttempt]
    cases f.isRetryable o.retryable
    · rfl
    · cases left with
      | zero => rfl
      | succ left =>
        simp only [Bool.not_true, Bool.false_eq_true, if_false]
        cases o.delayAfter n <;> rfl
  · simp only [Program.bind, andThen, afterAttempt]
    by_cases h : 1 < n
    · simp only [if_pos h]
      rfl
    · simp only [if_neg h]
      rfl

/-! ## Monitored tasks -/

/-- Guarded from every state of the task. -/
def Holds (M : Monitor World) (t : Task σ α) (Q : M.State → Except Failure α → Prop)
    (g : M.State) : Prop :=
  ∀ s, (t.start s).Guards M (fun g r => Q g r.1) g

section

variable {M : Monitor World} {g : M.State} {Q : M.State → Except Failure α → Prop}

theorem Holds.mono {R : M.State → Except Failure α → Prop} {t : Task σ α} (h : t.Holds M Q g)
    (hQR : ∀ g r, Q g r → R g r) : t.Holds M R g :=
  fun s => (h s).mono fun g r => hQR g r.1

theorem Holds.pure {a : α} (h : Q g (.ok a)) : (pure a : Task σ α).Holds M Q g :=
  fun _ => h

theorem Holds.throw {e : Failure} (h : Q g (.error e)) : (throw e : Task σ α).Holds M Q g :=
  fun _ => h

theorem Holds.ofExcept {r : Except Failure α} (h : Q g r) : (ofExcept r : Task σ α).Holds M Q g :=
  fun _ => h

theorem Holds.bind {R : M.State → Except Failure β → Prop} {t : Task σ α} {f : α → Task σ β}
    (h : t.Holds M Q g) (hok : ∀ g a, Q g (.ok a) → (f a).Holds M R g)
    (herror : ∀ g e, Q g (.error e) → R g (.error e)) : (t >>= f).Holds M R g := by
  intro s
  rw [start_bind, Program.guards_bind]
  refine (h s).mono ?_
  rintro g ⟨e | a, s⟩ hr
  · exact herror g e hr
  · exact hok g a hr s

theorem Holds.result {t : Task σ α} {R : M.State → Except Failure (Except Failure α) → Prop}
    (h : t.Holds M (fun g r => R g (.ok r)) g) : t.result.Holds M R g := by
  intro s
  rw [start_result, Program.guards_bind]
  exact h s

theorem Holds.within {t : Task σ α} {part : τ → σ} {replace : τ → σ → τ} (h : t.Holds M Q g) :
    (t.within part replace).Holds M Q g := by
  intro s
  rw [start_within, Program.guards_bind]
  exact h (part s)

theorem Holds.result_bind {R : M.State → Except Failure β → Prop} {t : Task σ α}
    {f : Except Failure α → Task σ β} (h : t.Holds M Q g)
    (hf : ∀ g r, Q g r → (f r).Holds M R g) : (t.result >>= f).Holds M R g := by
  refine (Holds.result (R := fun g r => ∃ x, r = .ok x ∧ Q g x) ?_).bind ?_ ?_
  · exact h.mono fun g r hr => ⟨r, rfl, hr⟩
  · rintro g x ⟨_, h, hx⟩
    cases h
    exact hf g x hx
  · rintro g e ⟨_, h, -⟩
    cases h

theorem Holds.pure_bind {R : M.State → Except Failure β → Prop} {a : α} {f : α → Task σ β}
    (h : (f a).Holds M R g) : (Pure.pure a >>= f).Holds M R g :=
  fun s => h s

theorem Holds.ofExcept_bind {R : M.State → Except Failure β → Prop} {r : Except Failure α}
    {f : α → Task σ β} (hok : ∀ a, r = .ok a → (f a).Holds M R g)
    (herror : ∀ e, r = .error e → R g (.error e)) : (Task.ofExcept r >>= f).Holds M R g := by
  cases r with
  | ok a => exact hok a rfl
  | error e => exact fun _ => herror e rfl

theorem Holds.ask_bind {c : World.Call} {R : M.State → Except Failure β → Prop}
    {f : c.Answer → Task σ β}
    (h : ∀ answer, M.allows g ⟨c, answer⟩ ∧ (f answer).Holds M R (M.next g ⟨c, answer⟩)) :
    (Task.ask c >>= f).Holds M R g :=
  fun s answer => ⟨(h answer).1, (h answer).2 s⟩

theorem Holds.get_bind {R : M.State → Except Failure β → Prop} {f : σ → Task σ β}
    (h : ∀ s, (f s).Holds M R g) : (MonadState.get >>= f : Task σ β).Holds M R g :=
  fun s => h s s

/-- After a call that the monitor ignores. -/
theorem Holds.ignored_bind {c : World.Call} {R : M.State → Except Failure β → Prop}
    {f : c.Answer → Task σ β} (hc : ∀ answer, M.Ignores ⟨c, answer⟩)
    (hf : ∀ answer, (f answer).Holds M R g) : (Task.ask c >>= f).Holds M R g := by
  refine .ask_bind fun answer => ⟨(hc answer g).1, ?_⟩
  rw [(hc answer g).2]
  exact hf answer

theorem Holds.log_bind (hM : M.Discreet) {level : Level} [level.Notable] {text : String}
    {R : M.State → Except Failure β → Prop} {f : Unit → Task σ β} (hf : (f ()).Holds M R g) :
    (Task.log level text >>= f).Holds M R g :=
  .ignored_bind (fun answer => hM.log level text answer Level.Notable.ne_debug) fun _ => hf

theorem Holds.logs (hM : M.Discreet) (level : Level) [level.Notable] (texts : List String) :
    (texts.forM (Task.log level ·) : Task σ PUnit).Holds M (fun g' r => g' = g ∧ r = .ok ()) g := by
  induction texts with
  | nil => exact .pure ⟨rfl, rfl⟩
  | cons text rest ih => exact .log_bind hM ih

end

section

variable {M : Monitor World} (hM : M.Discreet) {A : M.State → Prop}
  {P Q : M.State → Except Failure α → Prop} {t : Task σ α} {label : String}
  {o : RetryOptions Number} (ht : ∀ g, A g → t.Holds M P g)
  (hok : ∀ g a, P g (.ok a) → Q g (.ok a))
  (hagain : ∀ g f, P g (.error f) → f.isRetryable o.retryable = true → A g)
  (hfail : ∀ g f note, P g (.error f) → Q g (.error (f.addNote note)))
  (hpause : ∀ g f e (n : Nat), P g (.error f) → f.isRetryable o.retryable = true →
    1 ≤ n → n < o.attempts → o.delayAfter n = .error e → Q g (.error e))

include hM ht hok hagain hfail hpause

theorem Holds.attempt {n left : Nat} (hn : 1 ≤ n) (hleft : n + left = o.attempts) {g : M.State}
    (hg : A g) : (t.attempt label o n left).Holds M Q g := by
  induction left using Nat.strongRecOn generalizing n g with
  | ind left ih =>
    rw [attempt_eq]
    refine (ht g hg).result_bind ?_
    rintro g (f | a) hr
    · rw [afterAttempt.eq_def]
      dsimp only
      cases hf : f.isRetryable o.retryable with
      | false =>
        refine .log_bind hM (.throw ?_)
        exact hfail g f _ hr
      | true =>
        cases left with
        | zero =>
          refine .log_bind hM (.throw ?_)
          exact hfail g f _ hr
        | succ left =>
          simp only [Bool.not_true, Bool.false_eq_true, if_false]
          cases hd : o.delayAfter n with
          | error e => exact .throw (hpause g f e n hr hf hn (by omega) hd)
          | ok delay =>
            refine .log_bind hM ?_
            refine .ignored_bind (hM.sleep _) fun _ => ?_
            exact ih left (Nat.lt_succ_self left) (by omega) (by omega) (hagain g f hr hf)
    · rw [afterAttempt.eq_def]
      dsimp only
      split
      · exact .log_bind hM (.pure (hok g a hr))
      · exact .pure (hok g a hr)

/-- Of attempts that each keep `A` for the next one, as far as there is a next one. -/
theorem Holds.retry {g : M.State} (hg : A g) : (t.retry label o).Holds M Q g := by
  have hattempts : 1 ≤ o.attempts := by
    rw [RetryOptions.attempts]
    omega
  rw [retry_eq]
  exact Holds.attempt hM ht hok hagain hfail hpause (Nat.le_refl 1) (by omega) hg

end

/-! ## The calls of a task -/

def Calls (P : World.Call → Prop) (t : Task σ α) : Prop :=
  ∀ s, (t.start s).Asks P

section

variable {P : World.Call → Prop}

@[grind ←] theorem Calls.pure (a : α) : (pure a : Task σ α).Calls P :=
  fun _ => trivial

@[grind ←] theorem Calls.throw (e : Failure) : (throw e : Task σ α).Calls P :=
  fun _ => trivial

@[grind ←] theorem Calls.ofExcept (r : Except Failure α) : (ofExcept r : Task σ α).Calls P :=
  fun _ => trivial

theorem Calls.ask {c : World.Call} (h : P c) : (ask c : Task σ c.Answer).Calls P :=
  fun _ => ⟨h, fun _ => trivial⟩

@[grind ←] theorem Calls.bind {t : Task σ α} {f : α → Task σ β} (h : t.Calls P)
    (hf : ∀ a, (f a).Calls P) : (t >>= f).Calls P := by
  intro s
  rw [start_bind]
  refine (h s).bind ?_
  rintro ⟨e | a, s⟩
  · trivial
  · exact hf a s

@[grind ←] theorem Calls.result {t : Task σ α} (h : t.Calls P) : t.result.Calls P :=
  fun s => (h s).bind fun _ => trivial

@[grind ←] theorem Calls.within {t : Task σ α} {part : τ → σ} {replace : τ → σ → τ}
    (h : t.Calls P) : (t.within part replace).Calls P :=
  fun s => (h (part s)).bind fun _ => trivial

@[grind ←] theorem Calls.loop {body : β → Task σ (β ⊕ α)} {first : β} (h : ∀ b, (body b).Calls P) :
    (loop body first).Calls P := by
  refine fun s => ⟨fun x => (h x.1 x.2).bind ?_, fun _ => trivial⟩
  rintro ⟨e | x | a, s⟩ <;> trivial

@[grind ←] theorem Calls.log [World.Call.Talks P] (level : Level) (text : String) :
    (log level text : Task σ Unit).Calls P :=
  .ask (World.Call.Talks.log level text)

theorem Calls.logs [World.Call.Talks P] (level : Level) (texts : List String) :
    (texts.forM (Task.log level ·) : Task σ PUnit).Calls P := by
  induction texts with
  | nil => exact .pure _
  | cons text rest ih => exact .bind (.log level text) fun _ => ih

@[grind ←] theorem Calls.sleep [World.Call.Talks P] (seconds : Number) :
    (sleep seconds : Task σ Unit).Calls P :=
  .ask (World.Call.Talks.sleep seconds)

@[grind ←] theorem Calls.retry [World.Call.Talks P] {t : Task σ α} {label : String}
    {o : RetryOptions Number} (h : t.Calls P) : (t.retry label o).Calls P := by
  have hattempt : ∀ left n, (t.attempt label o n left).Calls P := by
    intro left
    induction left using Nat.strongRecOn with
    | ind left ih =>
      intro n
      rw [attempt_eq]
      refine h.result.bind ?_
      rintro (f | a)
      · rw [afterAttempt.eq_def]
        dsimp only
        split
        · exact (Calls.log _ _).bind fun _ => .throw _
        · split
          · exact (Calls.log _ _).bind fun _ => .throw _
          · split
            · exact .throw _
            · refine (Calls.log _ _).bind fun _ => ?_
              exact (Calls.sleep _).bind fun _ => ih _ (Nat.lt_succ_self _) _
      · rw [afterAttempt.eq_def]
        dsimp only
        split
        · exact (Calls.log _ _).bind fun _ => .pure a
        · exact .pure a
  exact hattempt _ 1

theorem Calls.holds {M : Monitor World} {K : M.State → Prop} {t : Task σ α} (h : t.Calls P)
    (hP : ∀ c answer g, P c → K g → M.allows g ⟨c, answer⟩ ∧ K (M.next g ⟨c, answer⟩))
    (hloop : ∀ g, K g → M.mayLoop g) {g : M.State} (hg : K g) :
    t.Holds M (fun g _ => K g) g :=
  fun s => (h s).guards hP hloop hg

section

variable {M : Monitor World} {g : M.State} (hg : M.Keeps P g) (hloop : M.mayLoop g)
  {t : Task σ α} (h : t.Calls P)

include hg hloop h

/-- A state that all calls of a task keep is the last one. -/
theorem Calls.holds_of_keeps : t.Holds M (fun g' _ => g' = g) g := by
  refine h.holds (K := fun g' => g' = g) ?_ ?_ rfl
  · rintro c answer _ hc rfl
    exact hg c answer hc
  · rintro _ rfl
    exact hloop

theorem Calls.kept_bind {f : α → Task σ β} {Q : M.State → Except Failure β → Prop}
    (hf : ∀ a, (f a).Holds M Q g) (he : ∀ e, Q g (.error e)) : (t >>= f).Holds M Q g := by
  refine (h.holds_of_keeps hg hloop).bind ?_ ?_
  · rintro _ a rfl
    exact hf a
  · rintro _ e rfl
    exact he e

theorem Calls.kept_result_bind {f : Except Failure α → Task σ β}
    {Q : M.State → Except Failure β → Prop} (hf : ∀ r, (f r).Holds M Q g) :
    (t.result >>= f).Holds M Q g := by
  refine (h.holds_of_keeps hg hloop).result_bind ?_
  rintro _ r rfl
  exact hf r

end

end

end Task

end MarketingFlow
