import MarketingFlow.Proofs.Interaction.Tasks

/-!
# Habits

A habit is a property that carries over from the parts of a task to the whole. What is put together
from tasks with a habit has it too, so that only the smallest parts have to be looked at. A local
habit belongs to one type of state, and it may say what becomes of the state.
-/

namespace MarketingFlow.Task

structure Habit where
  Has : {σ α : Type} → Task σ α → Prop
  /-- A task that makes no call. -/
  silent : ∀ {σ α : Type} {t : Task σ α}, (∀ s, ∃ x, t.start s = .done x) → Has t
  log : ∀ {σ : Type} (level : Level) (text : String), Has (Task.log level text : Task σ Unit)
  sleep : ∀ {σ : Type} (seconds : Number), Has (Task.sleep seconds : Task σ Unit)
  bind : ∀ {σ α β : Type} {t : Task σ α} {f : α → Task σ β}, Has t → (∀ a, Has (f a)) →
    Has (t >>= f)
  result : ∀ {σ α : Type} {t : Task σ α}, Has t → Has t.result
  within : ∀ {σ τ α : Type} {t : Task σ α} {part : τ → σ} {replace : τ → σ → τ}, Has t →
    Has (t.within part replace)

namespace Habit

attribute [grind ←] log sleep bind result within

variable {σ τ α β : Type} (H : Habit)

@[grind ←] theorem has_ofExcept (r : Except Failure α) : H.Has (ofExcept r : Task σ α) :=
  H.silent fun _ => ⟨_, rfl⟩

@[grind ←] theorem has_pure (a : α) : H.Has (pure a : Task σ α) :=
  H.has_ofExcept (.ok a)

@[grind ←] theorem has_throw (e : Failure) : H.Has (throw e : Task σ α) :=
  H.has_ofExcept (.error e)

@[grind ←] theorem has_get : H.Has (get : Task σ σ) :=
  H.silent fun _ => ⟨_, rfl⟩

@[grind ←] theorem has_modify (f : σ → σ) : H.Has (modify f : Task σ PUnit) :=
  H.silent fun _ => ⟨_, rfl⟩

/-- Under retry the task has the habit, on whatever part of a state it works. -/
def Retries (o : RetryOptions Number) (t : Task σ α) : Prop :=
  ∀ {τ : Type} (part : τ → σ) (replace : τ → σ → τ) (label : String),
    H.Has ((t.within part replace).retry label o)

/-- To make only calls that fulfil `P`. -/
def calls (P : World.Call → Prop) [World.Call.Talks P] : Habit where
  Has t := t.Calls P
  silent h s := by
    obtain ⟨x, hx⟩ := h s
    rw [hx]
    trivial
  log := .log
  sleep := .sleep
  bind := .bind
  result := .result
  within := .within

theorem retries_calls {P : World.Call → Prop} [World.Call.Talks P] {t : Task σ α} (h : t.Calls P)
    (o : RetryOptions Number) : (calls P).Retries o t :=
  fun _ _ _ => h.within.retry

end Habit

structure LocalHabit (σ : Type) where
  Has : {α : Type} → Task σ α → Prop
  /-- A task that makes no call and leaves the state as it is. -/
  still : ∀ {α : Type} {t : Task σ α}, (∀ s, ∃ r, t.start s = .done (r, s)) → Has t
  log : ∀ (level : Level) (text : String), Has (Task.log level text)
  sleep : ∀ seconds : Number, Has (Task.sleep seconds)
  bind : ∀ {α β : Type} {t : Task σ α} {f : α → Task σ β}, Has t → (∀ a, Has (f a)) →
    Has (t >>= f)
  result : ∀ {α : Type} {t : Task σ α}, Has t → Has t.result

/-- The habit as one of the tasks on states of one type. -/
def Habit.on (H : Habit) (σ : Type) : LocalHabit σ where
  Has := H.Has
  still h := H.silent fun s => (h s).elim fun _ hr => ⟨_, hr⟩
  log := H.log
  sleep := H.sleep
  bind := H.bind
  result := H.result

namespace LocalHabit

attribute [grind ←] log sleep bind result

variable {σ α : Type} (L : LocalHabit σ)

@[grind ←] theorem has_ofExcept (r : Except Failure α) : L.Has (ofExcept r) :=
  L.still fun _ => ⟨_, rfl⟩

@[grind ←] theorem has_pure (a : α) : L.Has (pure a) :=
  L.has_ofExcept (.ok a)

@[grind ←] theorem has_throw (e : Failure) : L.Has (throw e : Task σ α) :=
  L.has_ofExcept (.error e)

@[grind ←] theorem has_get : L.Has get :=
  L.still fun _ => ⟨_, rfl⟩

end LocalHabit

end MarketingFlow.Task
