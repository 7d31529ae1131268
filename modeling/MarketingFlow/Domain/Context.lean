import MarketingFlow.Domain.JoiningTable
import MarketingFlow.Domain.LetterTable
import MarketingFlow.Text.Composition

/-!
# Characters in their context

Most characters of a label may stand anywhere in it. A few may stand only beside certain others:
joiners, some marks of punctuation, and the two sorts of Arabic digits, which do not mix.
-/

namespace MarketingFlow.Domain

/-- May stand anywhere in a label. -/
def isLetter (c : Char) : Bool :=
  Text.inRanges letterRanges c ||
    smallLetterRanges.any fun (lo, hi) =>
      lo ≤ c.toNat && c.toNat ≤ hi && (c.toNat - lo) % 2 == 0

def joining? (c : Char) : Option Joining :=
  (joiningRuns.find? fun r => r.first ≤ c.toNat && c.toNat ≤ r.last).map (·.joining)

/-- Takes the place of a joined form, or keeps letters from joining. -/
def nonJoiner : Char := '\u200c'
def joiner : Char := '\u200d'

def isJoiner (c : Char) : Bool :=
  c == nonJoiner || c == joiner

/-- The class of the marks that silence a vowel. -/
def silencerClass : Nat := 9

/-- How the first letter joins that is not looked through. -/
def nextJoining? (cs : List Char) : Option Joining :=
  ((cs.map joining?).dropWhile (· == some .transparent)).head?.getD none

/-- Whether a joiner may stand between two parts of a label; `before` is reversed. -/
def joinerFits (c : Char) (before after : List Char) : Bool :=
  before.head?.any (Text.combiningClass · == silencerClass) ||
    (c == nonJoiner && ([some .left, some .dual].contains (nextJoining? before)) &&
      [some .right, some .dual].contains (nextJoining? after))

def isArabicDigit (c : Char) : Bool :=
  0x660 ≤ c.toNat && c.toNat ≤ 0x669

def isExtendedArabicDigit (c : Char) : Bool :=
  0x6f0 ≤ c.toNat && c.toNat ≤ 0x6f9

/-- The point between two `l`. -/
def middlePoint : Char := '\u00b7'
/-- The sign before a Greek number. -/
def greekSign : Char := '\u0375'
/-- The point between Japanese words. -/
def wordPoint : Char := '\u30fb'

def isHebrewSign (c : Char) : Bool :=
  c == '\u05f3' || c == '\u05f4'

/-- A character that depends on the others, joiners apart. -/
def isDependent (c : Char) : Bool :=
  c == middlePoint || c == greekSign || c == wordPoint || isHebrewSign c || isArabicDigit c ||
    isExtendedArabicDigit c

/-- Whether such a character may stand between two parts of a label; `before` is reversed. -/
def dependentFits (c : Char) (before after : List Char) : Bool :=
  let others := before ++ after
  if c == middlePoint then before.head? == some 'l' && after.head? == some 'l'
  else if c == greekSign then after.head?.any (Text.inRanges greekRanges)
  else if isHebrewSign c then before.head?.any (Text.inRanges hebrewRanges)
  else if c == wordPoint then others.any fun d => d != wordPoint && Text.inRanges eastAsianRanges d
  else if isArabicDigit c then !others.any isExtendedArabicDigit
  else !others.any isArabicDigit

end MarketingFlow.Domain
