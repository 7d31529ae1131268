import MarketingFlow.Text.CodePoint
import MarketingFlow.Text.Flaw

/-!
# Texts from wide units

Texts in UTF-16 and UTF-32, in either order of bytes. A half of a pair that stands alone is let
through; bytes that do not make up a unit, and units beyond the last character, are flaws.
-/

namespace MarketingFlow.Text.Wide

inductive ByteOrder where
  | little
  | big
  deriving DecidableEq, Repr

namespace ByteOrder

def suffix : ByteOrder → String
  | little => "-le"
  | big => "-be"

/-- The number that bytes stand for. -/
def value (o : ByteOrder) (bs : List Nat) : Nat :=
  (match o with
    | little => bs.reverse
    | big => bs).foldl (fun n b => 256 * n + b) 0

end ByteOrder

/-- The units of two bytes each, with the position after them if a byte is left over. -/
def pairs (o : ByteOrder) (position : Nat) : List Nat → Except ByteFlaw (List Nat)
  | [] => .ok []
  | [a] => .error ⟨"utf-16" ++ o.suffix, "truncated data", position, 1, a⟩
  | a :: b :: rest => do
    return o.value [a, b] :: (← pairs o (position + 2) rest)

def ofUnits : List Nat → List Char
  | [] => []
  | high :: low :: rest =>
    if isHighHalf high && isLowHalf low then
      ofCodePoint (pairCode high low) ++ ofUnits rest
    else ofCodePoint high ++ ofUnits (low :: rest)
  | [unit] => ofCodePoint unit

def decode16 (o : ByteOrder) (bs : List Nat) : Except ByteFlaw (List Char) := do
  return ofUnits (← pairs o 0 bs)

/-- The text of units of four bytes each, from a position on. -/
def decode32At (o : ByteOrder) (position : Nat) : List Nat → Except ByteFlaw (List Char)
  | [] => .ok []
  | a :: b :: c :: d :: rest =>
    let n := o.value [a, b, c, d]
    if 0x110000 ≤ n then
      .error ⟨"utf-32" ++ o.suffix, "code point not in range(0x110000)", position, 4, a⟩
    else do
      return ofCodePoint n ++ (← decode32At o (position + 4) rest)
  | a :: rest =>
    .error ⟨"utf-32" ++ o.suffix, "truncated data", position, (a :: rest).length, a⟩

def decode32 (o : ByteOrder) (bs : List Nat) : Except ByteFlaw (List Char) :=
  decode32At o 0 bs

end MarketingFlow.Text.Wide
