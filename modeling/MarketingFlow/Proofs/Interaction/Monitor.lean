import MarketingFlow.Proofs.Interaction.Reaches

/-!
# Monitors

A monitor watches a program: it has a state, refuses some calls and answers in some states, and says
in which states a loop may begin. `Guards M p Q g` is computed from the program: the monitor `M`,
in the state `g`, refuses nothing that `p` does, whatever it is answered, and `Q` holds of the last
state and the result. Rounds of a loop are covered by an invariant. `Guards.reaches` carries this
over to everything that can be left of `p`.
-/

namespace MarketingFlow

variable {I : Interface} {α β σ : Type}

structure Monitor (I : Interface) where
  State : Type
  allows : State → Event I → Prop
  next : State → Event I → State
  mayLoop : State → Prop

namespace Monitor

variable (M : Monitor I)

def after (g : M.State) (t : List (Event I)) : M.State :=
  t.foldl M.next g

/-- No event of the trace is refused. -/
def Accepts : M.State → List (Event I) → Prop
  | _, [] => True
  | g, e :: t => M.allows g e ∧ Accepts (M.next g e) t

/-- The event is allowed and changes nothing. -/
def Ignores (e : Event I) : Prop :=
  ∀ g, M.allows g e ∧ M.next g e = g

variable {M}

@[simp] theorem after_nil (g : M.State) : M.after g [] = g := rfl

@[simp] theorem after_cons (g : M.State) (e : Event I) (t : List (Event I)) :
    M.after g (e :: t) = M.after (M.next g e) t := rfl

theorem after_append (g : M.State) (t t' : List (Event I)) :
    M.after g (t ++ t') = M.after (M.after g t) t' :=
  List.foldl_append

theorem accepts_append {g : M.State} {t t' : List (Event I)} :
    M.Accepts g (t ++ t') ↔ M.Accepts g t ∧ M.Accepts (M.after g t) t' := by
  induction t generalizing g with
  | nil => simp [Accepts]
  | cons e t ih => rw [List.cons_append, Accepts, ih, Accepts, after_cons, and_assoc]

/-- In a state that no allowed event changes, every event of an accepted trace is allowed. -/
theorem allows_of_accepts {g : M.State} (hg : ∀ e, M.allows g e → M.next g e = g)
    {t : List (Event I)} (ht : M.Accepts g t) : ∀ e ∈ t, M.allows g e := by
  induction t with
  | nil =>
    intro e he
    cases he
  | cons e t ih =>
    obtain ⟨he, ht⟩ := ht
    rw [hg e he] at ht
    exact List.forall_mem_cons.mpr ⟨he, ih ht⟩

end Monitor

namespace Program

variable (M : Monitor I)

/-- What has to hold after one round of a loop with an invariant. -/
def AfterRound (Inv : σ → M.State → Prop) (R : M.State → β → Prop) (g : M.State) :
    σ ⊕ β → Prop
  | .inl s => M.mayLoop g ∧ Inv s g
  | .inr b => R g b

def Guards : {α : Type} → Program I α → (M.State → α → Prop) → M.State → Prop
  | _, .done a, Q, g => Q g a
  | _, .call c next, Q, g =>
    ∀ answer, M.allows g ⟨c, answer⟩ ∧ (next answer).Guards Q (M.next g ⟨c, answer⟩)
  | _, @Program.loop _ _ _ σ body s next, Q, g =>
    M.mayLoop g ∧ ∃ Inv : σ → M.State → Prop, Inv s g ∧
      ∀ s g, Inv s g → (body s).Guards (AfterRound M Inv fun g b => (next b).Guards Q g) g

variable {M}

theorem Guards.mono {p : Program I α} {Q R : M.State → α → Prop} {g : M.State}
    (h : p.Guards M Q g) (hQR : ∀ g a, Q g a → R g a) : p.Guards M R g := by
  induction p generalizing g with
  | done a => exact hQR g a h
  | call c next ih => exact fun answer => ⟨(h answer).1, ih answer (h answer).2 hQR⟩
  | loop body s next ihb ih =>
    obtain ⟨hloop, Inv, hs, hInv⟩ := h
    refine ⟨hloop, Inv, hs, fun x g hx => ihb x (hInv x g hx) ?_⟩
    rintro g (x | b) hy
    · exact hy
    · exact ih b hy hQR

theorem Guards.and {p : Program I α} {Q R : M.State → α → Prop} {g : M.State}
    (hQ : p.Guards M Q g) (hR : p.Guards M R g) : p.Guards M (fun g a => Q g a ∧ R g a) g := by
  induction p generalizing g with
  | done a => exact ⟨hQ, hR⟩
  | call c next ih => exact fun answer => ⟨(hQ answer).1, ih answer (hQ answer).2 (hR answer).2⟩
  | loop body s next ihb ih =>
    obtain ⟨hloop, Inv, hs, hInv⟩ := hQ
    obtain ⟨-, Inv', hs', hInv'⟩ := hR
    refine ⟨hloop, fun x g => Inv x g ∧ Inv' x g, ⟨hs, hs'⟩, fun x g hx => ?_⟩
    refine (ihb x (hInv x g hx.1) (hInv' x g hx.2)).mono ?_
    rintro g (x | b) ⟨h, h'⟩
    · exact ⟨h.1, h.2, h'.2⟩
    · exact ih b h h'

theorem guards_bind {p : Program I α} {f : α → Program I β} {Q : M.State → β → Prop}
    {g : M.State} : (p.bind f).Guards M Q g ↔ p.Guards M (fun g a => (f a).Guards M Q g) g := by
  induction p generalizing g with
  | done a => exact Iff.rfl
  | call c next ih => exact forall_congr' fun answer => and_congr Iff.rfl (ih answer)
  | loop body s next _ ih => simp only [bind, Guards, ih]

/-- What is left of a guarded program is guarded from the state that the monitor is then in. -/
theorem Guards.reaches {p q : Program I α} {Q : M.State → α → Prop} {g : M.State}
    {t : List (Event I)} (h : p.Guards M Q g) (hq : Reaches p t q) :
    M.Accepts g t ∧ q.Guards M Q (M.after g t) := by
  induction hq generalizing g with
  | here p => exact ⟨trivial, h⟩
  | call answer _ ih =>
    obtain ⟨ht, hq⟩ := ih (h answer).2
    exact ⟨⟨(h answer).1, ht⟩, hq⟩
  | enter _ ih =>
    obtain ⟨_, Inv, hs, hInv⟩ := h
    refine ih (guards_bind.mpr ((hInv _ _ hs).mono ?_))
    rintro g (x | b) hy
    · exact ⟨hy.1, Inv, hy.2, hInv⟩
    · exact hy

theorem Guards.runs {p : Program I α} {Q : M.State → α → Prop} {g : M.State}
    {t : List (Event I)} {a : α} (h : p.Guards M Q g) (ha : Runs p t a) :
    M.Accepts g t ∧ Q (M.after g t) a :=
  h.reaches ha.reaches

/-- In a state from which no loop may begin any more, the program ends. -/
theorem Guards.ends {p : Program I α} {Q : M.State → α → Prop} {g : M.State}
    (h : p.Guards M Q g) (hg : ¬ M.mayLoop g)
    (hnext : ∀ g e, M.allows g e → ¬ M.mayLoop g → ¬ M.mayLoop (M.next g e)) : p.Ends := by
  induction p generalizing g with
  | done a => exact .done a
  | call c next ih =>
    refine .call fun answer => ih answer (h answer).2 ?_
    exact hnext g _ (h answer).1 hg
  | loop body s next _ _ => exact absurd h.1 hg

end Program

end MarketingFlow
