/-!
# Code points

A text is a row of code points. Most of them are characters; but a document may name one half of a
UTF-16 pair by an escape and leave the other half out, and a half is no character. A text keeps a
half as two characters for private use, an opener and a closer. The openers and closers themselves
are kept in the same way, so that a row of code points is kept in one way only: `codePoints` gives
it back (`codePoints_ofCodePoints`). Whoever brings a text in keeps it by `keep`, and whoever takes
it out gets it back by `spell` (`spell_keep`).
-/

namespace MarketingFlow.Text

def isHighHalf (n : Nat) : Bool := 0xd800 ≤ n && n < 0xdc00

def isLowHalf (n : Nat) : Bool := 0xdc00 ≤ n && n < 0xe000

def isHalf (n : Nat) : Bool := 0xd800 ≤ n && n < 0xe000

/-- The code point of two halves. -/
def pairCode (high low : Nat) : Nat :=
  0x10000 + (high - 0xd800) * 0x400 + (low - 0xdc00)

/-- Where the 64 openers start. -/
def firstOpener : Nat := 0x10ff00

/-- Where the 64 closers start, right after the openers. -/
def firstCloser : Nat := 0x10ff40

def isOpener (n : Nat) : Bool := firstOpener ≤ n && n < firstCloser

def isCloser (n : Nat) : Bool := firstCloser ≤ n && n < firstCloser + 64

/-- The code points that do not stand for themselves. -/
def isSpelledOut (n : Nat) : Bool :=
  isHalf n || isOpener n || isCloser n

/-- The number of such a code point: the halves, then the openers and the closers. -/
def numberOf (n : Nat) : Nat :=
  if isHalf n then n - 0xd800 else n - firstOpener + 0x800

def ofNumber (k : Nat) : Nat :=
  if k < 0x800 then 0xd800 + k else firstOpener + (k - 0x800)

def ofCodePoint (n : Nat) : List Char :=
  if isSpelledOut n then
    [Char.ofNat (firstOpener + numberOf n / 64), Char.ofNat (firstCloser + numberOf n % 64)]
  else [Char.ofNat n]

def ofCodePoints (ns : List Nat) : List Char :=
  ns.flatMap ofCodePoint

def codePoints : List Char → List Nat
  | [] => []
  | [c] => [c.toNat]
  | a :: b :: rest =>
    if isOpener a.toNat && isCloser b.toNat then
      ofNumber ((a.toNat - firstOpener) * 64 + (b.toNat - firstCloser)) :: codePoints rest
    else a.toNat :: codePoints (b :: rest)

/-- One character for each code point; the zero character for a half. -/
def outline (cs : List Char) : List Char :=
  (codePoints cs).map Char.ofNat

/-- How a text keeps characters that stand for themselves. -/
def ofOutline (cs : List Char) : List Char :=
  ofCodePoints (cs.map Char.toNat)

/-- The text that keeps a text from outside. -/
def keep (s : String) : String :=
  String.ofList (ofOutline s.toList)

/-- The text as others see it. A half, which they do not know, is a zero character. -/
def spell (s : String) : String :=
  String.ofList (outline s.toList)

/-- How many code points a text has. -/
def size (s : String) : Nat :=
  (codePoints s.toList).length

/-- The code points of a text, each as a text of its own. -/
def singles (s : String) : List String :=
  (codePoints s.toList).map fun n => String.ofList (ofCodePoint n)

/-- The order of rows of code points. -/
def codesInOrder : List Nat → List Nat → Bool
  | [], _ => true
  | _ :: _, [] => false
  | a :: as, b :: bs => a < b || (a == b && codesInOrder as bs)

/-- The order of texts by their code points. Of all texts with the same code points only one is ever
kept; their characters order them, so that different texts are never in order both ways. -/
def inOrder (a b : String) : Bool :=
  if codePoints a.toList = codePoints b.toList then
    codesInOrder (a.toList.map Char.toNat) (b.toList.map Char.toNat)
  else codesInOrder (codePoints a.toList) (codePoints b.toList)

/-! ## What is kept is given back -/

theorem isHalf_iff {n : Nat} : isHalf n = true ↔ 0xd800 ≤ n ∧ n < 0xe000 := by
  simp [isHalf]

theorem isOpener_iff {n : Nat} : isOpener n = true ↔ 0x10ff00 ≤ n ∧ n < 0x10ff40 := by
  rw [isOpener, Bool.and_eq_true, decide_eq_true_eq, decide_eq_true_eq]
  exact Iff.rfl

theorem isCloser_iff {n : Nat} : isCloser n = true ↔ 0x10ff40 ≤ n ∧ n < 0x10ff80 := by
  rw [isCloser, Bool.and_eq_true, decide_eq_true_eq, decide_eq_true_eq]
  exact Iff.rfl

theorem isSpelledOut_iff {n : Nat} :
    isSpelledOut n = true ↔ isHalf n = true ∨ 0x10ff00 ≤ n ∧ n < 0x10ff80 := by
  rw [isSpelledOut, Bool.or_eq_true, Bool.or_eq_true, isOpener_iff, isCloser_iff, isHalf_iff]
  omega

theorem toNat_ofNat {n : Nat} (bound : n < 0x110000) (whole : isHalf n ≠ true) :
    (Char.ofNat n).toNat = n := by
  rw [Ne, isHalf_iff] at whole
  have valid : n.isValidChar := by
    simp only [Nat.isValidChar]
    omega
  rw [Char.ofNat, dif_pos valid]
  rfl

theorem toNat_lt (c : Char) : c.toNat < 0x110000 := by
  have valid := c.valid
  simp only [UInt32.isValidChar, Nat.isValidChar] at valid
  rw [← Char.toNat_val]
  omega

theorem codePoints_cons {c : Char} (h : isOpener c.toNat = false) (rest : List Char) :
    codePoints (c :: rest) = c.toNat :: codePoints rest := by
  cases rest with
  | nil => rfl
  | cons d rest => simp [codePoints, h]

theorem numberOf_lt {n : Nat} (h : isSpelledOut n = true) : numberOf n < 4096 := by
  rw [isSpelledOut_iff, isHalf_iff] at h
  rw [numberOf, show firstOpener = 0x10ff00 from rfl]
  split
  · next half =>
    rw [isHalf_iff] at half
    omega
  · next whole =>
    rw [isHalf_iff] at whole
    omega

theorem ofNumber_numberOf {n : Nat} (h : isSpelledOut n = true) : ofNumber (numberOf n) = n := by
  rw [isSpelledOut_iff, isHalf_iff] at h
  rw [ofNumber, numberOf, show firstOpener = 0x10ff00 from rfl]
  split
  · next half =>
    rw [isHalf_iff] at half
    split <;> omega
  · next whole =>
    rw [isHalf_iff] at whole
    split <;> omega

/-- What keeps a code point as two characters is an opener and a closer, which have its number. -/
theorem codePoints_pair_append {k : Nat} (small : k < 4096) (rest : List Char) :
    codePoints ([Char.ofNat (firstOpener + k / 64), Char.ofNat (firstCloser + k % 64)] ++ rest) =
      ofNumber k :: codePoints rest := by
  have start : firstOpener = 0x10ff00 := rfl
  have half : firstCloser = 0x10ff40 := rfl
  have opener : (Char.ofNat (firstOpener + k / 64)).toNat = firstOpener + k / 64 :=
    toNat_ofNat (by omega) (by rw [Ne, isHalf_iff]; omega)
  have closer : (Char.ofNat (firstCloser + k % 64)).toNat = firstCloser + k % 64 :=
    toNat_ofNat (by omega) (by rw [Ne, isHalf_iff]; omega)
  have opens : isOpener (firstOpener + k / 64) = true := isOpener_iff.mpr (by omega)
  have closes : isCloser (firstCloser + k % 64) = true := isCloser_iff.mpr (by omega)
  have whole : k / 64 * 64 + k % 64 = k := by omega
  simp only [List.cons_append, List.nil_append, codePoints, opener, closer, opens, closes,
    Bool.and_self, if_true, Nat.add_sub_cancel_left, whole]

/-- A code point comes back in front of any text. -/
theorem codePoints_ofCodePoint_append {n : Nat} (bound : n < 0x110000) (rest : List Char) :
    codePoints (ofCodePoint n ++ rest) = n :: codePoints rest := by
  rw [ofCodePoint]
  split
  · next spelled =>
    rw [codePoints_pair_append (numberOf_lt spelled), ofNumber_numberOf spelled]
  · next plain =>
    rw [isSpelledOut_iff, not_or] at plain
    have same := toNat_ofNat bound plain.1
    have opens : isOpener n ≠ true := by
      rw [Ne, isOpener_iff]
      omega
    rw [List.cons_append, List.nil_append,
      codePoints_cons (by rw [same]; exact Bool.eq_false_iff.mpr opens), same]

/-- A text gives back the code points that it keeps. -/
theorem codePoints_ofCodePoints {ns : List Nat} (bound : ∀ n ∈ ns, n < 0x110000) :
    codePoints (ofCodePoints ns) = ns := by
  induction ns with
  | nil => rfl
  | cons n ns ih =>
    rw [ofCodePoints, List.flatMap_cons, codePoints_ofCodePoint_append (bound n (by simp)),
      ← ofCodePoints, ih fun m h => bound m (List.mem_cons_of_mem n h)]

theorem outline_ofOutline (cs : List Char) : outline (ofOutline cs) = cs := by
  rw [outline, ofOutline, codePoints_ofCodePoints, List.map_map]
  · exact (List.map_congr_left fun c _ => Char.ofNat_toNat c).trans (List.map_id cs)
  · intro n h
    obtain ⟨c, _, rfl⟩ := List.mem_map.mp h
    exact toNat_lt c

/-- A text from outside comes back as it was. -/
theorem spell_keep (s : String) : spell (keep s) = s := by
  simp [spell, keep, outline_ofOutline]

end MarketingFlow.Text
