import MarketingFlow.Json.Text

/-!
# Values that are not written like names

In running text only a text stands for itself. All other values are written with the characters of
numbers, or with a bracket or a capital letter in front, so a value that reads like the name of a
type is that name.
-/

namespace MarketingFlow

open Decimal

/-- The characters that numbers and their special values are written with. -/
def isNumeric (c : Char) : Bool :=
  c.isDigit || ['-', '+', '.', 'e', 'i', 'n', 'f', 'a'].contains c

def Numeric (cs : List Char) : Prop :=
  ∀ c ∈ cs, isNumeric c = true

instance (cs : List Char) : Decidable (Numeric cs) :=
  decidable_of_iff (cs.all isNumeric = true) List.all_eq_true

namespace Numeric

variable {cs ds : List Char}

theorem append (hcs : Numeric cs) (hds : Numeric ds) : Numeric (cs ++ ds) :=
  List.forall_mem_append.mpr ⟨hcs, hds⟩

theorem cons {c : Char} (hc : isNumeric c = true) (hcs : Numeric cs) : Numeric (c :: cs) :=
  List.forall_mem_cons.mpr ⟨hc, hcs⟩

theorem digitChars (n : Nat) : Numeric (digitChars n) := by
  intro c hc
  have hdigit : c.isDigit = true := Nat.isDigit_of_mem_toDigits (by decide) (by decide) hc
  rw [isNumeric, hdigit, Bool.true_or]

theorem zeros (n : Nat) : Numeric (zeros n) := by
  intro c hc
  rw [List.eq_of_mem_replicate hc]
  rfl

theorem positional (hcs : Numeric cs) (power : Int) : Numeric (positional cs power) := by
  have htake : ∀ n, Numeric (cs.take n) := fun n c hc => hcs c (List.mem_of_mem_take hc)
  have hdrop : ∀ n, Numeric (cs.drop n) := fun n c hc => hcs c (List.mem_of_mem_drop hc)
  rw [Decimal.positional]
  split
  · exact .append (.append (by decide) (.zeros _)) hcs
  · refine .append (.append (htake _) (.zeros _)) (.cons (by decide) ?_)
    split
    · decide
    · exact hdrop _

theorem scientific (hcs : Numeric cs) (power : Int) : Numeric (scientific cs power) := by
  rw [Decimal.scientific.eq_def]
  refine .append (.append (.append ?_ ?_) (.zeros _)) (.digitChars _)
  · split
    · decide
    · exact hcs
    · obtain ⟨hd, hrest⟩ := List.forall_mem_cons.mp hcs
      exact .cons hd (.cons (by decide) hrest)
  · split <;> decide

theorem write (x : Float) : Numeric (Layout.plain.write x).toList := by
  rw [Layout.write]
  split
  · decide
  · split <;> decide
  · dsimp only
    have hbody : ∀ b : Bool, ∀ digits power, Numeric digits →
        Numeric (if b then Decimal.positional digits power
          else Decimal.scientific digits power) := by
      rintro (_ | _) digits power hdigits
      · exact hdigits.scientific power
      · exact hdigits.positional power
    rw [String.toList_ofList]
    split
    · exact .cons (by decide) (hbody _ _ _ (.digitChars _))
    · exact hbody _ _ _ (.digitChars _)

theorem toString (n : Int) : Numeric (toString n).toList := by
  have hnat : ∀ m : Nat, Numeric m.repr.toList := by
    intro m
    rw [Nat.toList_repr]
    exact .digitChars m
  cases n with
  | ofNat m => exact hnat m
  | negSucc m =>
    change Numeric ("-" ++ (m + 1).repr).toList
    rw [String.toList_append]
    exact .append (by decide) (hnat _)

end Numeric

end MarketingFlow
