import MarketingFlow.Proofs.Interaction.Monitor

/-!
# The calls of a program

`Asks P p` says that every call that `p` can make fulfils `P`, whatever it is answered. What a
monitor keeps of its state at such calls it keeps while `p` runs.
-/

namespace MarketingFlow.Program

variable {I : Interface} {α β : Type} {P : I.Call → Prop}

def Asks (P : I.Call → Prop) : {α : Type} → Program I α → Prop
  | _, .done _ => True
  | _, .call c next => P c ∧ ∀ answer, (next answer).Asks P
  | _, .loop body _ next => (∀ s, (body s).Asks P) ∧ ∀ b, (next b).Asks P

theorem Asks.bind {p : Program I α} {f : α → Program I β} (hp : p.Asks P)
    (hf : ∀ a, (f a).Asks P) : (p.bind f).Asks P := by
  induction p with
  | done a => exact hf a
  | call c next ih => exact ⟨hp.1, fun answer => ih answer (hp.2 answer) hf⟩
  | loop body s next _ ih => exact ⟨hp.1, fun b => ih b (hp.2 b) hf⟩

/-- The first round of a loop and what follows it ask for no more than the loop. -/
theorem Asks.round {σ : Type} {body : σ → Program I (σ ⊕ β)} {s : σ} {next : β → Program I α}
    (h : (loop body s next).Asks P) : ((body s).bind (turn body next)).Asks P := by
  refine (h.1 s).bind ?_
  rintro (s | b)
  · exact h
  · exact h.2 b

theorem Asks.reaches {p q : Program I α} {t : List (Event I)} (h : p.Asks P)
    (hq : Reaches p t q) : ∀ e ∈ t, P e.call := by
  induction hq with
  | here p => simp
  | call answer _ ih => exact List.forall_mem_cons.mpr ⟨h.1, ih (h.2 answer)⟩
  | enter _ ih => exact ih h.round

/-- What every one of the calls keeps of the monitor's state is kept by the program. -/
theorem Asks.guards {M : Monitor I} {Inv : M.State → Prop} {p : Program I α} (hp : p.Asks P)
    (hP : ∀ c answer g, P c → Inv g → M.allows g ⟨c, answer⟩ ∧ Inv (M.next g ⟨c, answer⟩))
    (hloop : ∀ g, Inv g → M.mayLoop g) {g : M.State} (hg : Inv g) :
    p.Guards M (fun g _ => Inv g) g := by
  induction p generalizing g with
  | done a => exact hg
  | call c next ih =>
    intro answer
    obtain ⟨hallowed, hnext⟩ := hP c answer g hp.1 hg
    exact ⟨hallowed, ih answer (hp.2 answer) hnext⟩
  | loop body s next ihb ih =>
    refine ⟨hloop g hg, fun _ g => Inv g, hg, fun s g hg => ?_⟩
    refine (ihb s (hp.1 s) hg).mono ?_
    rintro g (s | b) hg
    · exact ⟨hloop g hg, hg⟩
    · exact ih b (hp.2 b) hg

end MarketingFlow.Program
