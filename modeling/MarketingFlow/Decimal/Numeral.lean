import MarketingFlow.Decimal.Binary
import MarketingFlow.Failure
import MarketingFlow.Text.Blank
import MarketingFlow.Text.Digit
import MarketingFlow.Text.Quoted

/-!
# Numerals

Numbers as people type them: blanks around them, a sign, digits of any script, and single
underscores between digits. A whole number keeps its exact value; any other becomes the closest
double.
-/

namespace MarketingFlow.Decimal.Numeral

/-- Blanks and digits of other scripts in their plain forms; other characters have none. -/
def plainChar? (c : Char) : Option Char :=
  if c.toNat < 0x7f then some c
  else if Text.isBlank c then some ' '
  else (Text.digitValue? c).map fun d => Char.ofNat (0x30 + d)

/-- The plain form of a text. It ends at the first character that has none, with a question mark in
its place. -/
def plain : List Char → List Char
  | [] => []
  | c :: rest =>
    match plainChar? c with
    | some d => d :: plain rest
    | none => ['?']

/-- The blanks of plain text, without the separators of information. -/
def isSpacing (c : Char) : Bool :=
  c == ' ' || (0x09 ≤ c.toNat && c.toNat ≤ 0x0d)

def trim (cs : List Char) : List Char :=
  ((cs.dropWhile isSpacing).reverse.dropWhile isSpacing).reverse

/-- Drops the underscores if each stands between two digits. -/
def joinDigits? (before : Option Char) : List Char → Option (List Char)
  | [] => some []
  | '_' :: rest =>
    if before.any Text.isAsciiDigit && rest.head?.any Text.isAsciiDigit then
      joinDigits? (some '_') rest
    else none
  | c :: rest => (joinDigits? (some c) rest).map (c :: ·)

/-- Whether there is a minus sign, and the text after the sign. -/
def signOf : List Char → Bool × List Char
  | '-' :: rest => (true, rest)
  | '+' :: rest => (false, rest)
  | cs => (false, cs)

def notWhole (s : String) : Failure :=
  Failure.value (String.ofList
    ("invalid literal for int() with base 10: ".toList ++ (Text.quote s).toList.take 200))

/-- A digit, or an underscore that may stand between two. -/
def isDigitPart (c : Char) : Bool :=
  Text.isAsciiDigit c || c == '_'

/-- The digits are counted before what follows them is looked at. -/
def readInt (s : String) : Except Failure Int := do
  let (negative, cs) := signOf ((plain s.toList).dropWhile isSpacing)
  match joinDigits? none (cs.takeWhile isDigitPart) with
  | none => throw (notWhole s)
  | some digits =>
    if Text.maxDigits < digits.length then throw { cause := .tooManyDigits digits.length }
    if digits.isEmpty || !(cs.dropWhile isDigitPart).all isSpacing then throw (notWhole s)
    let n : Int := Text.ofAsciiDigits digits
    return if negative then -n else n

/-- The value of an exponent, if the text is one and nothing else; no text is the exponent zero. -/
def exponent? : List Char → Option Int
  | [] => some 0
  | mark :: rest =>
    if mark == 'e' || mark == 'E' then
      let (negative, digits) := signOf rest
      if digits.isEmpty || !digits.all Text.isAsciiDigit then none
      else
        let n : Int := Text.ofAsciiDigits digits
        some (if negative then -n else n)
    else none

/-- The words for what is no finite number. -/
def special? (negative : Bool) (cs : List Char) : Option Float :=
  let word := String.ofList (cs.map Char.toLower)
  if word == "inf" || word == "infinity" then some (signed negative infinityBits)
  else if word == "nan" then some (signed negative (infinityBits + leadingBit / 2))
  else none

/-- A number with an optional fraction and an optional exponent. -/
def decimal? (negative : Bool) (cs : List Char) : Option Float := do
  let whole := cs.takeWhile Text.isAsciiDigit
  let afterWhole := cs.dropWhile Text.isAsciiDigit
  let (fraction, rest) := match afterWhole with
    | '.' :: rest => (rest.takeWhile Text.isAsciiDigit, rest.dropWhile Text.isAsciiDigit)
    | rest => ([], rest)
  let digits := whole ++ fraction
  if digits.isEmpty then none else
  let exponent ← exponent? rest
  return ofDecimal negative (Text.ofAsciiDigits digits) (exponent - fraction.length)

def float? (s : String) : Option Float := do
  let (negative, cs) := signOf (← joinDigits? none (trim (plain s.toList)))
  (special? negative cs).or (decimal? negative cs)

def readFloat (s : String) : Except Failure Float :=
  match float? s with
  | some x => .ok x
  | none => .error (Failure.value ("could not convert string to float: " ++ Text.quote s))

end MarketingFlow.Decimal.Numeral
