import MarketingFlow.Text.Case
import MarketingFlow.Text.CompositionTables

/-!
# Composed texts

The same letter may be written as one character or as several: a letter and the marks on it. A text
is composed if it is as short as it can be made: taken apart into letters and marks, the marks put
in order and everything joined again, it is what it was.
-/

namespace MarketingFlow.Text

/-- The class of a mark, by which the marks on one letter are put in order. Zero for all others. -/
def combiningClass (c : Char) : Nat :=
  match combiningRuns.find? fun r => r.1 ≤ c.toNat && c.toNat ≤ r.2.1 with
  | some r => r.2.2
  | none => 0

def isMark (c : Char) : Bool :=
  inRanges markRanges c

/-! ## Syllables

A Korean syllable is a lead and a vowel, with or without a tail. All of them stand in a row in the
order of their parts. -/

def syllableBase : Nat := 0xac00
def leadBase : Nat := 0x1100
def vowelBase : Nat := 0x1161
/-- The place before the first tail. -/
def tailBase : Nat := 0x11a7
def leadCount : Nat := 19
def vowelCount : Nat := 21
/-- No tail counts as one. -/
def tailCount : Nat := 28

def syllableParts? (c : Char) : Option (List Char) :=
  let n := c.toNat - syllableBase
  if c.toNat < syllableBase || leadCount * vowelCount * tailCount ≤ n then none
  else
    let lead := Char.ofNat (leadBase + n / tailCount / vowelCount)
    let vowel := Char.ofNat (vowelBase + n / tailCount % vowelCount)
    let tail := n % tailCount
    some (if tail = 0 then [lead, vowel] else [lead, vowel, Char.ofNat (tailBase + tail)])

/-- The syllable of two parts, of which the first may be a syllable without a tail. -/
def joinSyllable? (a b : Char) : Option Char :=
  let lead := a.toNat - leadBase
  let vowel := b.toNat - vowelBase
  let place := a.toNat - syllableBase
  let tail := b.toNat - tailBase
  if leadBase ≤ a.toNat && lead < leadCount && vowelBase ≤ b.toNat && vowel < vowelCount then
    some (Char.ofNat (syllableBase + (lead * vowelCount + vowel) * tailCount))
  else if syllableBase ≤ a.toNat && place < leadCount * vowelCount * tailCount &&
      place % tailCount = 0 && tailBase < b.toNat && tail < tailCount then
    some (Char.ofNat (a.toNat + tail))
  else none

/-! ## Taking apart and joining -/

/-- The most times that a character comes apart. -/
def deepest : Nat := 4

/-- A character taken apart at most a number of times. -/
def takeApart : Nat → Char → List Char
  | 0, c => [c]
  | n + 1, c =>
    match composites.find? fun r => r.1 = c.toNat with
    | some r => takeApart n (Char.ofNat r.2.1) ++ [Char.ofNat r.2.2]
    | none => (syllableParts? c).getD [c]

/-- Puts a character before others. Marks of a lower class go first. -/
def insertMark (c : Char) : List Char → List Char
  | [] => [c]
  | d :: rest =>
    if combiningClass d ≠ 0 && combiningClass d < combiningClass c then d :: insertMark c rest
    else c :: d :: rest

/-- The marks between two letters in the order of their classes. -/
def orderMarks (cs : List Char) : List Char :=
  cs.foldr insertMark []

def join? (a b : Char) : Option Char :=
  match composites.find? fun r => r.2.1 = a.toNat && r.2.2 = b.toNat with
  | some r => some (Char.ofNat r.1)
  | none => joinSyllable? a b

/-- Joins a letter with what follows it. `held` are the marks passed over so far, reversed: a mark
reaches the letter past them only if its class is above that of the last. -/
def joinAfter (letter : Char) (held : List Char) : List Char → List Char
  | [] => letter :: held.reverse
  | c :: rest =>
    let reaches := match held with
      | [] => true
      | d :: _ => combiningClass d < combiningClass c
    match if reaches then join? letter c else none with
    | some joined => joinAfter joined held rest
    | none =>
      if combiningClass c = 0 then letter :: held.reverse ++ joinAfter c [] rest
      else joinAfter letter (c :: held) rest

/-- Joins what can be joined; marks without a letter stay as they are. -/
def joinAll : List Char → List Char
  | [] => []
  | c :: rest => if combiningClass c = 0 then joinAfter c [] rest else c :: joinAll rest

def isComposed (cs : List Char) : Bool :=
  !cs.any (inRanges neverComposed) && joinAll (orderMarks (cs.flatMap (takeApart deepest))) == cs

theorem insertMark_perm (c : Char) (cs : List Char) : (insertMark c cs).Perm (c :: cs) := by
  induction cs with
  | nil => exact .refl _
  | cons d rest ih =>
    rw [insertMark]
    split
    · exact (ih.cons d).trans (.swap c d rest)
    · exact .refl _

theorem orderMarks_perm (cs : List Char) : (orderMarks cs).Perm cs := by
  induction cs with
  | nil => exact .refl _
  | cons c rest ih => exact (insertMark_perm c (orderMarks rest)).trans (ih.cons c)

end MarketingFlow.Text
