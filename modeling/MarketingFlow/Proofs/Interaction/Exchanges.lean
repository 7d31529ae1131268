import MarketingFlow.Proofs.Interaction.Traces
import MarketingFlow.Proofs.Outcome

/-!
# What a task exchanges with the service

The exchanges of a trace are its requests with their replies. `t.Ensures P` says of all runs of the
task `t` that `P` holds of what was exchanged and of the result. It is `Holds` for a monitor that
refuses nothing and writes down the exchanges, where `P` sees only what the task itself adds to
them. `t.Yields P` says it of the runs that no accident ends.
-/

namespace MarketingFlow

open Outcome

structure Exchange where
  request : Request
  reply : Reply

def Event.exchange? : Event World → Option Exchange
  | ⟨.send r, (reply : Reply)⟩ => some ⟨r, reply⟩
  | _ => none

/-- The call is no request. -/
class World.Call.Unsent (c : World.Call) : Prop where
  exchange?_eq_none : ∀ answer, Event.exchange? ⟨c, answer⟩ = none

instance {level : Level} {text : String} : (World.Call.log level text).Unsent := ⟨fun _ => rfl⟩

instance {seconds : Number} : (World.Call.sleep seconds).Unsent := ⟨fun _ => rfl⟩

instance : (World.Call.workingDirectory).Unsent := ⟨fun _ => rfl⟩

instance {path : String} : (World.Call.look path).Unsent := ⟨fun _ => rfl⟩

instance {path : String} : (World.Call.fileBytes path).Unsent := ⟨fun _ => rfl⟩

def exchanges (t : List (Event World)) : List Exchange :=
  t.filterMap Event.exchange?

@[simp] theorem exchanges_append (t u : List (Event World)) :
    exchanges (t ++ u) = exchanges t ++ exchanges u :=
  List.filterMap_append

@[simp] theorem exchanges_cons_unsent {c : World.Call} [c.Unsent] (answer : c.Answer)
    (t : List (Event World)) : exchanges (⟨c, answer⟩ :: t) = exchanges t :=
  List.filterMap_cons_none (World.Call.Unsent.exchange?_eq_none answer)

/-- The monitor that refuses nothing and writes down all exchanges. -/
abbrev recorder : Monitor World :=
  ⟨List Exchange, fun _ _ => True, fun x e => x ++ e.exchange?.toList, fun _ => True⟩

theorem after_recorder (x : List Exchange) (t : List (Event World)) :
    recorder.after x t = x ++ exchanges t := by
  induction t generalizing x with
  | nil => simp [exchanges]
  | cons e t ih =>
    rw [Monitor.after_cons, ih, List.append_assoc]
    congr 1
    cases h : e.exchange? <;> simp [exchanges, h]

theorem ignores_recorder {e : Event World} (h : e.exchange? = none) : recorder.Ignores e :=
  fun x => ⟨trivial, by simp [h]⟩

theorem discreet_recorder : recorder.Discreet where
  log _ _ _ _ := ignores_recorder rfl
  response _ _ := ignores_recorder rfl
  sleep _ _ := ignores_recorder rfl

theorem Program.asks_anything {I : Interface} {α : Type} (p : Program I α) :
    p.Asks fun _ => True := by
  induction p with
  | done a => trivial
  | call c next ih => exact ⟨trivial, ih⟩
  | loop body s next ihb ih => exact ⟨ihb, ih⟩

namespace Task

variable {σ τ α β : Type} {t : Task σ α} {f : α → Task σ β}
  {P : List Exchange → Except Failure α → Prop} {Q : List Exchange → Except Failure β → Prop}

def Ensures (t : Task σ α) (P : List Exchange → Except Failure α → Prop) : Prop :=
  ∀ x, t.Holds recorder (fun y r => ∃ z, y = x ++ z ∧ P z r) x

theorem Ensures.reaches (h : t.Ensures P) {s s' : σ} {u : List (Event World)}
    {r : Except Failure α} (hr : Program.Reaches (t.start s) u (.done (r, s'))) :
    P (exchanges u) r := by
  obtain ⟨-, z, hz, hP⟩ := (h [] s).reaches hr
  rw [after_recorder] at hz
  obtain rfl : exchanges u = z := hz
  exact hP

theorem Ensures.traces (h : t.Ensures P) : t.Traces fun u r => P (exchanges u) r :=
  fun _ _ _ _ hr => h.reaches hr

theorem Ensures.mono {Q : List Exchange → Except Failure α → Prop} (h : t.Ensures P)
    (hPQ : ∀ x r, P x r → Q x r) : t.Ensures Q := by
  intro x
  refine (h x).mono ?_
  rintro _ r ⟨z, rfl, hz⟩
  exact ⟨z, rfl, hPQ z r hz⟩

theorem Ensures.and {Q : List Exchange → Except Failure α → Prop} (hP : t.Ensures P)
    (hQ : t.Ensures Q) : t.Ensures fun x r => P x r ∧ Q x r := by
  intro x s
  refine ((hP x s).and (hQ x s)).mono ?_
  rintro _ r ⟨⟨z, rfl, hP⟩, z', hz, hQ⟩
  obtain rfl : z = z' := List.append_cancel_left hz
  exact ⟨z, rfl, hP, hQ⟩

/-- What every call of the task fulfils, all its requests fulfil. -/
theorem Calls.ensures {R : World.Call → Prop} (h : t.Calls R) :
    t.Ensures fun x _ => ∀ e ∈ x, R (.send e.request) := by
  intro x
  refine (h.holds (M := recorder) (K := fun y => ∃ z, y = x ++ z ∧ ∀ e ∈ z, R (.send e.request)) ?_
    (fun _ _ => trivial) ⟨[], by simp⟩).mono ?_
  · rintro c answer _ hc ⟨z, rfl, hz⟩
    refine ⟨trivial, _, List.append_assoc x z _, List.forall_mem_append.mpr ⟨hz, ?_⟩⟩
    intro e he
    cases c with
    | send r =>
      obtain rfl : e = ⟨r, answer⟩ := by simpa [Event.exchange?] using he
      exact hc
    | _ => simp [Event.exchange?] at he
  · rintro _ r ⟨z, rfl, hz⟩
    exact ⟨z, rfl, hz⟩

theorem ensures_anything (t : Task σ α) : t.Ensures fun _ _ => True :=
  (Calls.ensures (R := fun _ => True) fun _ => Program.asks_anything _).mono fun _ _ _ => trivial

theorem Ensures.ofExcept {r : Except Failure α} (h : P [] r) : (ofExcept r : Task σ α).Ensures P :=
  fun _ => .ofExcept ⟨[], by simp, h⟩

theorem Ensures.pure {a : α} (h : P [] (.ok a)) : (pure a : Task σ α).Ensures P :=
  fun _ => .pure ⟨[], by simp, h⟩

theorem Ensures.throw {e : Failure} (h : P [] (.error e)) : (throw e : Task σ α).Ensures P :=
  fun _ => .throw ⟨[], by simp, h⟩

theorem Ensures.bind (h : t.Ensures P)
    (hok : ∀ x a, P x (.ok a) → (f a).Ensures fun y r => Q (x ++ y) r)
    (herror : ∀ x e, P x (.error e) → Q x (.error e)) : (t >>= f).Ensures Q := by
  intro x
  refine (h x).bind ?_ ?_
  · rintro _ a ⟨y, rfl, hy⟩
    refine (hok y a hy (x ++ y)).mono ?_
    rintro _ r ⟨z, rfl, hz⟩
    exact ⟨y ++ z, List.append_assoc x y z, hz⟩
  · rintro _ e ⟨y, rfl, hy⟩
    exact ⟨y, rfl, herror y e hy⟩

theorem Ensures.result_bind {f : Except Failure α → Task σ β} (h : t.Ensures P)
    (hf : ∀ x r, P x r → (f r).Ensures fun y s => Q (x ++ y) s) : (t.result >>= f).Ensures Q := by
  intro x
  refine (h x).result_bind ?_
  rintro _ r ⟨y, rfl, hy⟩
  refine (hf y r hy (x ++ y)).mono ?_
  rintro _ s ⟨z, rfl, hz⟩
  exact ⟨y ++ z, List.append_assoc x y z, hz⟩

theorem Ensures.ofExcept_bind {r : Except Failure α} (hok : ∀ a, r = .ok a → (f a).Ensures Q)
    (herror : ∀ e, r = .error e → Q [] (.error e)) : (Task.ofExcept r >>= f).Ensures Q :=
  fun x => .ofExcept_bind (fun a ha => hok a ha x) fun e he => ⟨[], by simp, herror e he⟩

theorem Ensures.quiet_bind {c : World.Call} [c.Unsent] {f : c.Answer → Task σ β}
    (hf : ∀ answer, (f answer).Ensures Q) : (Task.ask c >>= f).Ensures Q := by
  intro x
  refine .ignored_bind (fun answer => ?_) fun answer => hf answer x
  exact ignores_recorder (World.Call.Unsent.exchange?_eq_none answer)

theorem Ensures.get_bind {f : σ → Task σ β} (h : ∀ s, (f s).Ensures Q) :
    (MonadState.get >>= f : Task σ β).Ensures Q :=
  fun x => .get_bind fun s => h s x

theorem Ensures.within {part : τ → σ} {replace : τ → σ → τ} (h : t.Ensures P) :
    (t.within part replace).Ensures P :=
  fun x => (h x).within

/-- Of attempts that may each follow what earlier ones exchanged, as `A` says. -/
theorem Ensures.retry {A : List Exchange → Prop} {Q : List Exchange → Except Failure α → Prop}
    {label : String} {o : RetryOptions Number} (h : t.Ensures P) (hA : A [])
    (hok : ∀ x y a, A x → P y (.ok a) → Q (x ++ y) (.ok a))
    (hagain : ∀ x y e, A x → P y (.error e) → A (x ++ y))
    (hfail : ∀ x y e note, A x → P y (.error e) → Q (x ++ y) (.error (e.addNote note)))
    (hpause : ∀ x y e e' (n : Nat), A x → P y (.error e) → o.delayAfter n = .error e' →
      Q (x ++ y) (.error e')) : (t.retry label o).Ensures Q := by
  intro x
  refine Holds.retry (A := fun y => ∃ z, y = x ++ z ∧ A z)
    (P := fun y r => ∃ z z', y = x ++ (z ++ z') ∧ A z ∧ P z' r) discreet_recorder ?_ ?_ ?_ ?_ ?_
    ⟨[], by simp, hA⟩
  · rintro _ ⟨z, rfl, hz⟩
    refine (h (x ++ z)).mono ?_
    rintro _ r ⟨z', rfl, hz'⟩
    exact ⟨z, z', List.append_assoc x z z', hz, hz'⟩
  · rintro _ a ⟨z, z', rfl, hz, hz'⟩
    exact ⟨_, rfl, hok z z' a hz hz'⟩
  · rintro _ e ⟨z, z', rfl, hz, hz'⟩ -
    exact ⟨_, rfl, hagain z z' e hz hz'⟩
  · rintro _ e note ⟨z, z', rfl, hz, hz'⟩
    exact ⟨_, rfl, hfail z z' e note hz hz'⟩
  · rintro _ e e' n ⟨z, z', rfl, hz, hz'⟩ - - - hdelay
    exact ⟨_, rfl, hpause z z' e e' n hz hz' hdelay⟩

/-! ## Runs without accidents -/

/-- Whatever fails is foreseen. -/
abbrev Foreseen (r : Except Failure α) : Prop :=
  Fails (fun e : Failure => e.foreseen = true) r

def Yields (t : Task σ α) (P : List Exchange → Except Failure α → Prop) : Prop :=
  t.Ensures fun x r => Foreseen r → P x r

theorem Ensures.yields (h : t.Ensures P) : t.Yields P :=
  h.mono fun _ _ hr _ => hr

theorem Yields.and_ensures {Q : List Exchange → Except Failure α → Prop} (hP : t.Yields P)
    (hQ : t.Ensures Q) : t.Yields fun x r => P x r ∧ Q x r :=
  (Ensures.and hP hQ).mono fun _ _ h hforeseen => ⟨h.1 hforeseen, h.2⟩

theorem Yields.mono {Q : List Exchange → Except Failure α → Prop} (h : t.Yields P)
    (hPQ : ∀ x r, Foreseen r → P x r → Q x r) : t.Yields Q :=
  Ensures.mono h fun x r hr hforeseen => hPQ x r hforeseen (hr hforeseen)

theorem Yields.reaches (h : t.Yields P) {s s' : σ} {u : List (Event World)}
    {r : Except Failure α} (hr : Program.Reaches (t.start s) u (.done (r, s')))
    (hforeseen : Foreseen r) : P (exchanges u) r :=
  Ensures.reaches h hr hforeseen

theorem Yields.pure {a : α} (h : P [] (.ok a)) : (pure a : Task σ α).Yields P :=
  Ensures.yields (.pure h)

theorem Yields.accident {e : Failure} (he : e.foreseen = false) :
    (throw e : Task σ α).Yields P := by
  refine .throw fun hforeseen => ?_
  rw [show e.foreseen = true from hforeseen e rfl] at he
  cases he

theorem Yields.bind (h : t.Yields P)
    (hok : ∀ x a, P x (.ok a) → (f a).Yields fun y r => Q (x ++ y) r)
    (herror : ∀ x e, e.foreseen = true → P x (.error e) → Q x (.error e)) :
    (t >>= f).Yields Q := by
  refine Ensures.bind h (fun x a hr => hok x a (hr (.ok a))) ?_
  intro x e hr hforeseen
  have he := hforeseen e rfl
  exact herror x e he (hr (.error he))

/-- An accident goes on as one; all other results may be made use of. -/
theorem Yields.result_bind {f : Except Failure α → Task σ β} (h : t.Yields P)
    (hok : ∀ x a, P x (.ok a) → (f (.ok a)).Yields fun y r => Q (x ++ y) r)
    (herror : ∀ x e, e.foreseen = true → P x (.error e) →
      (f (.error e)).Yields fun y r => Q (x ++ y) r)
    (haccident : ∀ e, e.foreseen = false → (f (.error e)).Yields fun _ _ => False) :
    (t.result >>= f).Yields Q := by
  refine Ensures.result_bind h ?_
  rintro x (e | a) hr
  · cases he : e.foreseen with
    | true => exact herror x e he (hr (.error he))
    | false => exact (haccident e he).mono fun _ _ _ => False.elim
  · exact hok x a (hr (.ok a))

theorem Yields.ofExcept_bind {r : Except Failure α}
    (hr : Fails (fun e : Failure => e.foreseen = false) r)
    (hok : ∀ a, r = .ok a → (f a).Yields Q) : (Task.ofExcept r >>= f).Yields Q := by
  refine Ensures.ofExcept_bind hok fun e he hforeseen => ?_
  have hunforeseen : e.foreseen = false := hr e he
  rw [show e.foreseen = true from hforeseen e rfl] at hunforeseen
  cases hunforeseen

theorem Yields.quiet_bind {c : World.Call} [c.Unsent] {f : c.Answer → Task σ β}
    (hf : ∀ answer, (f answer).Yields Q) : (Task.ask c >>= f).Yields Q :=
  Ensures.quiet_bind hf

end Task

end MarketingFlow
