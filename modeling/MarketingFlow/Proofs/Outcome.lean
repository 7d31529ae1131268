import Mathlib.Data.List.Forall2
import MarketingFlow.Failure

/-!
# Results that may be failures

What a successful result in sequence or over a list says about its parts.
-/

namespace MarketingFlow.Outcome

variable {ε α β : Type}

@[simp] theorem ok_bind (a : α) (f : α → Except ε β) : (Except.ok a >>= f) = f a := rfl

@[simp] theorem error_bind (e : ε) (f : α → Except ε β) : (Except.error e >>= f) = .error e := rfl

@[simp] theorem pure_eq (a : α) : (pure a : Except ε α) = .ok a := rfl

theorem bind_eq_ok_iff {x : Except ε α} {f : α → Except ε β} {b : β} :
    x >>= f = .ok b ↔ ∃ a, x = .ok a ∧ f a = .ok b := by
  cases x with
  | error e => simp
  | ok a => simp

theorem exists_bind_pure_eq_ok_iff {x : Except ε α} {g : α → β} :
    (∃ b, (x >>= fun a => pure (g a)) = .ok b) ↔ ∃ a, x = .ok a := by
  cases x with
  | error e => simp
  | ok a => simp

theorem bind_eq_error_iff {x : Except ε α} {f : α → Except ε β} {e : ε} :
    x >>= f = .error e ↔ x = .error e ∨ ∃ a, x = .ok a ∧ f a = .error e := by
  cases x with
  | error e => simp
  | ok a => simp

/-- A result is found by evaluating a check of it. -/
theorem exists_ok_of_any {x : Except ε α} {q : α → Bool} (h : x.toOption.any q = true) :
    ∃ a, x = .ok a ∧ q a = true := by
  obtain ⟨a, ha, hq⟩ := (Option.any_eq_true _ _).mp h
  cases x with
  | error e => cases ha
  | ok b =>
    cases ha
    exact ⟨_, rfl, hq⟩

theorem mapM_cons_eq_ok_iff {f : α → Except ε β} {x : α} {xs : List α} {ys : List β} :
    (x :: xs).mapM f = .ok ys ↔ ∃ y rest, f x = .ok y ∧ xs.mapM f = .ok rest ∧ ys = y :: rest := by
  rw [List.mapM_cons]
  constructor
  · intro h
    obtain ⟨y, hy, h⟩ := bind_eq_ok_iff.mp h
    obtain ⟨rest, hrest, h⟩ := bind_eq_ok_iff.mp h
    cases h
    exact ⟨y, rest, hy, hrest, rfl⟩
  · rintro ⟨y, rest, hy, hrest, rfl⟩
    rw [hy, ok_bind, hrest, ok_bind, pure_eq]

theorem mapM_eq_ok_iff {f : α → Except ε β} {xs : List α} :
    (∃ ys, xs.mapM f = .ok ys) ↔ ∀ x ∈ xs, ∃ b, f x = .ok b := by
  induction xs with
  | nil => exact iff_of_true ⟨[], rfl⟩ (by simp)
  | cons x xs ih =>
    rw [List.forall_mem_cons, ← ih]
    constructor
    · rintro ⟨_, h⟩
      obtain ⟨y, rest, hy, hrest, -⟩ := mapM_cons_eq_ok_iff.mp h
      exact ⟨⟨y, hy⟩, rest, hrest⟩
    · rintro ⟨⟨y, hy⟩, rest, hrest⟩
      exact ⟨_, mapM_cons_eq_ok_iff.mpr ⟨y, rest, hy, hrest, rfl⟩⟩

/-- Related items with related results give related lists. -/
theorem exists_mapM_of_forall₂ {r : α → α → Prop} {q : β → β → Prop} {f : α → Except ε β}
    (hf : ∀ x x', r x x' → ∀ y, f x = .ok y → ∃ y', f x' = .ok y' ∧ q y y') {xs xs' : List α}
    (h : List.Forall₂ r xs xs') {ys : List β} (hys : xs.mapM f = .ok ys) :
    ∃ ys', xs'.mapM f = .ok ys' ∧ List.Forall₂ q ys ys' := by
  induction h generalizing ys with
  | nil =>
    cases hys
    exact ⟨[], rfl, .nil⟩
  | cons hx _ ih =>
    obtain ⟨y, rest, hy, hrest, rfl⟩ := mapM_cons_eq_ok_iff.mp hys
    obtain ⟨y', hy', hq⟩ := hf _ _ hx y hy
    obtain ⟨rest', hrest', hall⟩ := ih hrest
    exact ⟨_, mapM_cons_eq_ok_iff.mpr ⟨y', rest', hy', hrest', rfl⟩, .cons hq hall⟩

theorem mem_iff_of_mapM {f : α → Except ε β} {xs : List α} {ys : List β} (h : xs.mapM f = .ok ys)
    {y : β} : y ∈ ys ↔ ∃ x ∈ xs, f x = .ok y := by
  induction xs generalizing ys with
  | nil =>
    cases h
    simp
  | cons x xs ih =>
    obtain ⟨first, rest, hfirst, hrest, rfl⟩ := mapM_cons_eq_ok_iff.mp h
    simp [ih hrest, hfirst, eq_comm (a := y)]

/-- Nothing is found in a list if and only if nothing is found in each of its items. -/
theorem mapM_flatten_eq_nil_iff {f : α → Except ε (List β)} {xs : List α} :
    (∃ found, xs.mapM f = .ok found ∧ found.flatten = []) ↔ ∀ x ∈ xs, f x = .ok [] := by
  induction xs with
  | nil => simp
  | cons x xs ih =>
    rw [List.forall_mem_cons, ← ih]
    constructor
    · rintro ⟨found, h, hnil⟩
      obtain ⟨here, more, hhere, hmore, rfl⟩ := mapM_cons_eq_ok_iff.mp h
      obtain ⟨rfl, hnil⟩ := List.append_eq_nil_iff.mp hnil
      exact ⟨hhere, more, hmore, hnil⟩
    · rintro ⟨hhere, more, hmore, hnil⟩
      exact ⟨_, mapM_cons_eq_ok_iff.mpr ⟨[], more, hhere, hmore, rfl⟩, hnil⟩

theorem filterAuxM_eq_ok {f : α → Except ε Bool} {xs : List α} (acc : List α)
    (h : ∀ x ∈ xs, ∃ b, f x = .ok b) :
    ∃ ys, xs.filterAuxM f acc = .ok ys ∧ ∀ y ∈ ys, y ∈ xs ∨ y ∈ acc := by
  induction xs generalizing acc with
  | nil => exact ⟨acc, rfl, fun y hy => .inr hy⟩
  | cons x xs ih =>
    obtain ⟨⟨b, hb⟩, hxs⟩ := List.forall_mem_cons.mp h
    obtain ⟨ys, hys, hmem⟩ := ih (bif b then x :: acc else acc) hxs
    refine ⟨ys, by rw [List.filterAuxM, hb, ok_bind, hys], fun y hy => ?_⟩
    rcases hmem y hy with hy | hy
    · exact .inl (List.mem_cons_of_mem x hy)
    · cases b with
      | true => grind
      | false => exact .inr hy

theorem ok_of_filterAuxM {f : α → Except ε Bool} {xs acc ys : List α}
    (h : xs.filterAuxM f acc = .ok ys) : ∀ x ∈ xs, ∃ b, f x = .ok b := by
  induction xs generalizing acc with
  | nil =>
    intro x hx
    cases hx
  | cons x xs ih =>
    obtain ⟨b, hb, h⟩ := bind_eq_ok_iff.mp h
    exact List.forall_mem_cons.mpr ⟨⟨b, hb⟩, ih h⟩

/-- Filtering succeeds if and only if every item can be told. -/
theorem filterM_eq_ok_iff {f : α → Except ε Bool} {xs : List α} :
    (∃ ys, xs.filterM f = .ok ys) ↔ ∀ x ∈ xs, ∃ b, f x = .ok b := by
  constructor
  · rintro ⟨ys, h⟩
    obtain ⟨zs, h, -⟩ := bind_eq_ok_iff.mp h
    exact ok_of_filterAuxM h
  · intro h
    obtain ⟨ys, hys, -⟩ := filterAuxM_eq_ok [] h
    exact ⟨ys.reverse, bind_eq_ok_iff.mpr ⟨ys, hys, rfl⟩⟩

theorem mem_of_filterM {f : α → Except ε Bool} {xs ys : List α} (h : xs.filterM f = .ok ys) :
    ∀ y ∈ ys, y ∈ xs := by
  obtain ⟨zs, hzs, h⟩ := bind_eq_ok_iff.mp h
  cases h
  obtain ⟨zs', hzs', hmem⟩ := filterAuxM_eq_ok [] (ok_of_filterAuxM hzs)
  rw [hzs] at hzs'
  cases hzs'
  intro y hy
  rcases hmem y (List.mem_reverse.mp hy) with hy | hy
  · exact hy
  · cases hy

theorem filterAuxM_eq {f : α → Except ε Bool} {p : α → Bool} (hp : ∀ x b, f x = .ok b → p x = b)
    {xs acc ys : List α} (h : xs.filterAuxM f acc = .ok ys) :
    ys = (xs.filter p).reverse ++ acc := by
  induction xs generalizing acc with
  | nil =>
    cases h
    rfl
  | cons x xs ih =>
    obtain ⟨b, hb, h⟩ := bind_eq_ok_iff.mp h
    rw [ih h]
    cases b with
    | true => rw [List.filter_cons_of_pos (hp x true hb)]; simp
    | false => rw [List.filter_cons_of_neg (by rw [hp x false hb]; decide), cond_false]

theorem filterM_eq {f : α → Except ε Bool} {p : α → Bool} (hp : ∀ x b, f x = .ok b → p x = b)
    {xs ys : List α} (h : xs.filterM f = .ok ys) : ys = xs.filter p := by
  obtain ⟨zs, hzs, h⟩ := bind_eq_ok_iff.mp h
  cases h
  rw [filterAuxM_eq hp hzs]
  simp

/-- If the result is a failure, it fulfils `P`. -/
def Fails (P : ε → Prop) (x : Except ε α) : Prop :=
  ∀ e, x = .error e → P e

section

variable {P : ε → Prop} {x : Except ε α}

theorem Fails.ok (a : α) : Fails P (.ok a) := by
  rintro e ⟨⟩

theorem Fails.error {e : ε} (h : P e) : Fails P (.error e : Except ε α) := by
  rintro _ ⟨rfl⟩
  exact h

theorem Fails.bind {f : α → Except ε β} (hx : Fails P x) (hf : ∀ a, Fails P (f a)) :
    Fails P (x >>= f) := by
  intro e he
  rcases bind_eq_error_iff.mp he with he | ⟨a, -, he⟩
  · exact hx e he
  · exact hf a e he

theorem Fails.mapM_option {f : α → Except ε β} (h : ∀ a, Fails P (f a)) (o : Option α) :
    Fails P (o.mapM f) := by
  cases o with
  | none => exact .ok _
  | some a => exact (h a).bind fun _ => .ok _

theorem Fails.filterM {f : α → Except ε Bool} (h : ∀ a, Fails P (f a)) (xs : List α) :
    Fails P (xs.filterM f) := by
  have haux : ∀ acc, Fails P (xs.filterAuxM f acc) := by
    induction xs with
    | nil => exact fun acc => .ok acc
    | cons x xs ih => exact fun acc => (h x).bind fun b => ih _
  exact (haux []).bind fun _ => .ok _

end

end MarketingFlow.Outcome
