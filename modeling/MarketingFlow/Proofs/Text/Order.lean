import MarketingFlow.Text.CodePoint
import Mathlib

/-!
# Texts in order

The order of texts is linear: it is that of a key which no two texts share. So sorting forgets the
order of a list of texts and nothing else.
-/

namespace MarketingFlow.Text

theorem codesInOrder_iff {as bs : List Nat} : codesInOrder as bs = true ↔ as ≤ bs := by
  rw [← not_lt]
  fun_induction codesInOrder as bs with
  | case1 bs => simp
  | case2 a as => simp
  | case3 a as b bs ih =>
    rw [List.cons_lt_cons_iff, Bool.or_eq_true, Bool.and_eq_true, ih, decide_eq_true_eq, beq_iff_eq]
    rcases lt_trichotomy a b with h | rfl | h
    · simp [h, h.ne', h.le]
    · simp
    · simp [h, h.ne', h.le]

/-- What a text is ordered by: its code points, and then its characters. -/
def orderKey (s : String) : List Nat ×ₗ List Nat :=
  toLex (codePoints s.toList, s.toList.map Char.toNat)

theorem orderKey_injective : Function.Injective orderKey := by
  intro a b h
  obtain ⟨-, hchars⟩ := Prod.mk.inj (toLex.injective h)
  exact String.toList_injective (List.map_injective_iff.mpr (fun _ _ => Char.toNat_inj.mp) hchars)

theorem inOrder_iff {a b : String} : inOrder a b = true ↔ orderKey a ≤ orderKey b := by
  rw [inOrder, orderKey, orderKey, Prod.Lex.toLex_le_toLex]
  split
  · next h => simp [h, codesInOrder_iff]
  · next h => simp [h, codesInOrder_iff, lt_iff_le_and_ne]

theorem inOrder_trans {a b c : String} (hab : inOrder a b = true) (hbc : inOrder b c = true) :
    inOrder a c = true :=
  inOrder_iff.mpr (le_trans (inOrder_iff.mp hab) (inOrder_iff.mp hbc))

theorem inOrder_total (a b : String) : (inOrder a b || inOrder b a) = true := by
  rw [Bool.or_eq_true, inOrder_iff, inOrder_iff]
  exact le_total _ _

theorem inOrder_antisymm {a b : String} (hab : inOrder a b = true) (hba : inOrder b a = true) :
    a = b :=
  orderKey_injective (le_antisymm (inOrder_iff.mp hab) (inOrder_iff.mp hba))

theorem mergeSort_inOrder_eq_iff {as bs : List String} :
    as.mergeSort inOrder = bs.mergeSort inOrder ↔ as.Perm bs := by
  have hsorted : ∀ texts : List String,
      (texts.mergeSort inOrder).Pairwise fun a b => inOrder a b = true :=
    List.pairwise_mergeSort (fun _ _ _ => inOrder_trans) inOrder_total
  constructor
  · intro h
    exact (List.mergeSort_perm as _).symm.trans (h ▸ List.mergeSort_perm bs _)
  · intro h
    refine List.Perm.eq_of_pairwise (fun a b _ _ => inOrder_antisymm) (hsorted as) (hsorted bs) ?_
    exact (List.mergeSort_perm as _).trans (h.trans (List.mergeSort_perm bs _).symm)

end MarketingFlow.Text
