/-!
# Blank characters

The characters that count as space at either end of a text, and trimming. `trim` leaves neither a
leading nor a trailing blank, and a text is blank exactly when nothing is left of it.
-/

namespace MarketingFlow.Text

/-- White space together with the four information separators. -/
def isBlank (c : Char) : Bool :=
  let n := c.toNat
  (0x09 ≤ n && n ≤ 0x0d) || (0x1c ≤ n && n ≤ 0x20) || n == 0x85 || n == 0xa0 || n == 0x1680 ||
    (0x2000 ≤ n && n ≤ 0x200a) || n == 0x2028 || n == 0x2029 || n == 0x202f || n == 0x205f ||
    n == 0x3000

/-- The blanks that end a line. -/
def endsLine (c : Char) : Bool :=
  let n := c.toNat
  (0x0a ≤ n && n ≤ 0x0d) || (0x1c ≤ n && n ≤ 0x1e) || n == 0x85 || n == 0x2028 || n == 0x2029

def trimEnd (cs : List Char) : List Char :=
  (cs.reverse.dropWhile isBlank).reverse

def trim (cs : List Char) : List Char :=
  trimEnd (cs.dropWhile isBlank)

/-- A text of blanks only, the empty one included. -/
def AllBlank (s : String) : Bool :=
  s.toList.all isBlank

theorem trim_eq_nil_iff {cs : List Char} : trim cs = [] ↔ cs.all isBlank := by
  have hdrop : ∀ l : List Char, l.dropWhile isBlank = [] ↔ l.all isBlank := by
    intro l
    induction l with
    | nil => simp
    | cons c l ih => by_cases h : isBlank c <;> simp [h, ih]
  rw [trim, trimEnd, List.reverse_eq_nil_iff, hdrop, List.all_reverse]
  induction cs with
  | nil => rfl
  | cons c l ih => by_cases h : isBlank c <;> simp [h, ih]

theorem isBlank_of_isWhitespace {c : Char} (h : c.isWhitespace) : isBlank c := by
  simp only [Char.isWhitespace, Bool.or_eq_true, decide_eq_true_eq] at h
  rcases h with ((rfl | rfl) | rfl) | rfl <;> decide

end MarketingFlow.Text
