/-!
# Programs that ask the outside

An `Interface` is a set of calls with the type of each call's answer. A `Program` makes calls one
after the other, and the answers decide how it goes on; a loop runs its body on a state until the
body gives a result. `Runs p t a` says that `p` may end with `a` after the calls and answers of the
trace `t`: nothing is assumed about the outside, so what holds of all runs holds whatever the
outside does. `runs_bind` joins the runs of two programs in sequence.
-/

namespace MarketingFlow

structure Interface where
  Call : Type
  Answer : Call → Type

structure Event (I : Interface) where
  call : I.Call
  answer : I.Answer call

inductive Program (I : Interface) : Type → Type 1 where
  | done {α : Type} (a : α) : Program I α
  | call {α : Type} (c : I.Call) (next : I.Answer c → Program I α) : Program I α
  | loop {α β σ : Type} (body : σ → Program I (σ ⊕ β)) (start : σ) (next : β → Program I α) :
      Program I α

namespace Program

variable {I : Interface} {α β γ : Type}

def bind : {α : Type} → Program I α → (α → Program I β) → Program I β
  | _, done a, f => f a
  | _, call c next, f => call c fun answer => (next answer).bind f
  | _, loop body start next, f => loop body start fun b => (next b).bind f

instance : Monad (Program I) where
  pure := done
  bind := bind

def ask (c : I.Call) : Program I (I.Answer c) :=
  call c done

@[simp] theorem pure_eq (a : α) : (pure a : Program I α) = done a := rfl

@[simp] theorem bind_eq (p : Program I α) (f : α → Program I β) : p >>= f = p.bind f := rfl

@[simp] theorem bind_done (p : Program I α) : p.bind done = p := by
  induction p with
  | done a => rfl
  | call c next ih => simp [bind, ih]
  | loop body start next _ ih => simp [bind, ih]

theorem bind_assoc (p : Program I α) (f : α → Program I β) (g : β → Program I γ) :
    (p.bind f).bind g = p.bind fun a => (f a).bind g := by
  induction p with
  | done a => rfl
  | call c next ih => simp [bind, ih]
  | loop body start next _ ih => simp [bind, ih]

instance : LawfulMonad (Program I) :=
  LawfulMonad.mk' (Program I) (fun p => show p.bind done = p from bind_done p)
    (fun _ _ => rfl) bind_assoc

/-- `Runs p t a`: with the answers of the trace `t`, the program `p` ends with `a`. -/
inductive Runs : {α : Type} → Program I α → List (Event I) → α → Prop where
  | done {α : Type} (a : α) : Runs (.done a) [] a
  | call {α : Type} {c : I.Call} {next : I.Answer c → Program I α} {t : List (Event I)} {a : α}
      (answer : I.Answer c) (h : Runs (next answer) t a) : Runs (.call c next) (⟨c, answer⟩ :: t) a
  | again {α β σ : Type} {body : σ → Program I (σ ⊕ β)} {s s' : σ} {next : β → Program I α}
      {t t' : List (Event I)} {a : α} (hb : Runs (body s) t (.inl s'))
      (h : Runs (.loop body s' next) t' a) : Runs (.loop body s next) (t ++ t') a
  | leave {α β σ : Type} {body : σ → Program I (σ ⊕ β)} {s : σ} {b : β} {next : β → Program I α}
      {t t' : List (Event I)} {a : α} (hb : Runs (body s) t (.inr b))
      (h : Runs (next b) t' a) : Runs (.loop body s next) (t ++ t') a

theorem runs_bind {p : Program I α} {f : α → Program I β} {t t' : List (Event I)} {a : α} {b : β}
    (hp : Runs p t a) (hf : Runs (f a) t' b) : Runs (p.bind f) (t ++ t') b := by
  induction hp with
  | done a => exact hf
  | call answer _ ih => exact .call answer (ih hf)
  | again hb _ _ ih => rw [List.append_assoc]; exact .again hb (ih hf)
  | leave hb _ _ ih => rw [List.append_assoc]; exact .leave hb (ih hf)

/-- Runs the program against an outside with a state of its own. Every loop gets at most `limit`
rounds; a run that needs more gives nothing. -/
def interpret {S : Type} (limit : Nat) (answer : (c : I.Call) → S → I.Answer c × S) :
    {α : Type} → Program I α → S → Option (α × S)
  | _, done a, s => some (a, s)
  | _, call c next, s =>
    let (reply, s) := answer c s
    (next reply).interpret limit answer s
  | _, loop body start next, s =>
    let rec rounds {σ β : Type} (once : σ → S → Option ((σ ⊕ β) × S)) :
        Nat → σ → S → Option (β × S)
      | 0, _, _ => none
      | n + 1, x, s =>
        match once x s with
        | none => none
        | some (.inl x, s) => rounds once n x s
        | some (.inr b, s) => some (b, s)
    match rounds (fun x s => (body x).interpret limit answer s) limit start s with
    | none => none
    | some (b, s) => (next b).interpret limit answer s

/-- Answers each call of one interface by a program over another that keeps a state. -/
def translate {J : Interface} {S : Type} (answer : (c : I.Call) → S → Program J (I.Answer c × S)) :
    {α : Type} → Program I α → S → Program J (α × S)
  | _, done a, s => done (a, s)
  | _, call c next, s => (answer c s).bind fun (reply, s) => (next reply).translate answer s
  | _, loop body start next, s =>
    loop
      (fun (x, s) => ((body x).translate answer s).bind fun
        | (.inl x, s) => done (.inl (x, s))
        | (.inr b, s) => done (.inr (b, s)))
      (start, s)
      (fun (b, s) => (next b).translate answer s)

end Program

end MarketingFlow
