import MarketingFlow.Text.Case
import MarketingFlow.Text.CodePoint
import MarketingFlow.Text.PrintableTable

/-!
# Quoted texts

A text between quotes, as it appears inside other values. Single quotes are used unless the text
holds one and no double quote; characters that do not print are escaped by their code point.
-/

namespace MarketingFlow.Text

def hexDigits (width n : Nat) : List Char :=
  let ds := Nat.toDigits 16 n
  List.replicate (width - ds.length) '0' ++ ds

/-- A code point that shows something. A half does not. -/
def isPrintable (n : Nat) : Bool :=
  if n < 0x7f then 0x20 ≤ n else !isHalf n && !haveCode unprintableRanges n

def quoteMark (cs : List Char) : Char :=
  if cs.contains '\'' && !cs.contains '"' then '"' else '\''

/-- A code point as an escape. -/
def escapedCode (n : Nat) : List Char :=
  if n < 0x100 then '\\' :: 'x' :: hexDigits 2 n
  else if n < 0x10000 then '\\' :: 'u' :: hexDigits 4 n
  else '\\' :: 'U' :: hexDigits 8 n

/-- The form of one code point between quotes of the given kind. -/
def quotedCode (mark : Char) (n : Nat) : List Char :=
  if n = mark.toNat || n = '\\'.toNat then ['\\', Char.ofNat n]
  else if n = '\n'.toNat then ['\\', 'n']
  else if n = '\r'.toNat then ['\\', 'r']
  else if n = '\t'.toNat then ['\\', 't']
  else if isPrintable n then ofCodePoint n
  else escapedCode n

def quote (s : String) : String :=
  let cs := s.toList
  let mark := quoteMark cs
  String.ofList (mark :: (codePoints cs).flatMap (quotedCode mark) ++ [mark])

end MarketingFlow.Text
