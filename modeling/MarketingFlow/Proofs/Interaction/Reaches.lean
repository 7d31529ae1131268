import MarketingFlow.Interaction.Program

/-!
# What is left of a program

`Reaches p t q` says that `q` is left of `p` after the calls and answers of `t`. What holds after
every such `t` holds at every moment of a run, also of one that never ends. `Ends p` says that `p`
ends whatever it is answered.
-/

namespace MarketingFlow.Program

variable {I : Interface} {α β σ : Type}

/-- What follows one round of a loop: the next round, or what comes after the loop. -/
def turn (body : σ → Program I (σ ⊕ β)) (next : β → Program I α) : σ ⊕ β → Program I α
  | .inl s => .loop body s next
  | .inr b => next b

theorem round_bind (body : σ → Program I (σ ⊕ α)) (s : σ) (next : α → Program I β)
    {γ : Type} (f : β → Program I γ) :
    ((body s).bind (turn body next)).bind f =
      (body s).bind (turn body fun a => (next a).bind f) := by
  rw [bind_assoc]
  congr 1
  funext x
  cases x <;> rfl

inductive Reaches : {α : Type} → Program I α → List (Event I) → Program I α → Prop where
  | here {α : Type} (p : Program I α) : Reaches p [] p
  | call {α : Type} {c : I.Call} {next : I.Answer c → Program I α} {t : List (Event I)}
      {q : Program I α} (answer : I.Answer c) (h : Reaches (next answer) t q) :
      Reaches (.call c next) (⟨c, answer⟩ :: t) q
  | enter {α β σ : Type} {body : σ → Program I (σ ⊕ β)} {s : σ} {next : β → Program I α}
      {t : List (Event I)} {q : Program I α} (h : Reaches ((body s).bind (turn body next)) t q) :
      Reaches (.loop body s next) t q

inductive Ends : {α : Type} → Program I α → Prop where
  | done {α : Type} (a : α) : Ends (.done a)
  | call {α : Type} {c : I.Call} {next : I.Answer c → Program I α}
      (h : ∀ answer, Ends (next answer)) : Ends (.call c next)
  | loop {α β σ : Type} {body : σ → Program I (σ ⊕ β)} {s : σ} {next : β → Program I α}
      (h : Ends ((body s).bind (turn body next))) : Ends (.loop body s next)

/-- The events of the first `n` steps against fixed answers, and what is left. -/
def record (answer : (c : I.Call) → I.Answer c) : Nat → Program I α → List (Event I) × Program I α
  | 0, p => ([], p)
  | _ + 1, .done a => ([], .done a)
  | n + 1, .call c next =>
    let (t, q) := record answer n (next (answer c))
    (⟨c, answer c⟩ :: t, q)
  | n + 1, .loop body s next => record answer n ((body s).bind (turn body next))

theorem reaches_record (answer : (c : I.Call) → I.Answer c) (n : Nat) (p : Program I α) :
    Reaches p (record answer n p).1 (record answer n p).2 := by
  induction n generalizing p with
  | zero => exact .here p
  | succ n ih =>
    cases p with
    | done a => exact .here _
    | call c next => exact .call (answer c) (ih _)
    | loop body s next => exact .enter (ih _)

/-- Every event of a record has the answer that was fixed for its call. -/
theorem answer_of_mem_record {answer : (c : I.Call) → I.Answer c} {n : Nat} {p : Program I α}
    {e : Event I} (he : e ∈ (record answer n p).1) : e = ⟨e.call, answer e.call⟩ := by
  induction n generalizing p with
  | zero => cases he
  | succ n ih =>
    cases p with
    | done a => cases he
    | call c next =>
      rcases List.mem_cons.mp he with rfl | he
      · rfl
      · exact ih he
    | loop body s next => exact ih he

def result? : Program I α → Option α
  | .done a => some a
  | _ => none

theorem reaches_of_record {answer : (c : I.Call) → I.Answer c} {n : Nat} {p : Program I α} {a : α}
    (h : (record answer n p).2.result? = some a) : Reaches p (record answer n p).1 (.done a) := by
  have hrun := reaches_record answer n p
  cases hlast : (record answer n p).2 with
  | done b =>
    rw [hlast] at h hrun
    cases h
    exact hrun
  | call c next =>
    rw [hlast] at h
    cases h
  | loop body s next =>
    rw [hlast] at h
    cases h

theorem Runs.reaches_bind {p : Program I α} {t : List (Event I)} {a : α} (h : Runs p t a)
    {f : α → Program I β} {t' : List (Event I)} {q : Program I β} (hf : Reaches (f a) t' q) :
    Reaches (p.bind f) (t ++ t') q := by
  induction h generalizing β t' with
  | done a => exact hf
  | call answer _ ih => exact .call answer (ih hf)
  | again _ _ ihb ih =>
    rw [List.append_assoc]
    exact .enter (ihb (ih hf))
  | leave _ _ ihb ih =>
    rw [List.append_assoc]
    exact .enter (ihb (ih hf))

/-- After a run, nothing but its result is left. -/
theorem Runs.reaches {p : Program I α} {t : List (Event I)} {a : α} (h : Runs p t a) :
    Reaches p t (.done a) := by
  simpa using h.reaches_bind (f := .done) (.here (.done a))

theorem Reaches.trans {p q r : Program I α} {t t' : List (Event I)} (h : Reaches p t q)
    (h' : Reaches q t' r) : Reaches p (t ++ t') r := by
  induction h with
  | here p => exact h'
  | call answer _ ih => exact .call answer (ih h')
  | enter _ ih => exact .enter (ih h')

theorem Reaches.bind {p q : Program I α} {t : List (Event I)} (h : Reaches p t q)
    (f : α → Program I β) : Reaches (p.bind f) t (q.bind f) := by
  induction h with
  | here p => exact .here _
  | call answer _ ih => exact .call answer ih
  | enter _ ih =>
    refine .enter ?_
    rw [← round_bind]
    exact ih

end MarketingFlow.Program
