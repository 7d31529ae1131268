import MarketingFlow.Failure
import MarketingFlow.Text.Digit
import MarketingFlow.Text.Utf8

/-!
# Escapes in addresses

A percent sign and two hexadecimal digits stand for a byte. Letters, digits and a few marks always
stand for themselves; each part of an address adds marks of its own. All other characters are
written as the escapes of their bytes.
-/

namespace MarketingFlow.Escape

def isUnreserved (c : Char) : Bool :=
  c.isAlphanum || c == '-' || c == '.' || c == '_' || c == '~'

def hexDigit (n : Nat) : Char :=
  if n < 10 then Char.ofNat (0x30 + n) else Char.ofNat (0x37 + n)

def ofByte (b : UInt8) : List Char :=
  ['%', hexDigit (b.toNat / 16), hexDigit (b.toNat % 16)]

/-- One character in a part of an address that adds the `safe` ones. -/
def ofChar (safe : Char → Bool) (c : Char) : List Char :=
  if isUnreserved c || safe c then [c] else (String.singleton c).toUTF8.toList.flatMap ofByte

/-- The written form of a part of an address. A half of a pair has none. -/
def write (safe : Char → Bool) (cs : List Char) : Except Failure (List Char) := do
  let half := (Text.codePoints cs).find? Text.isHalf
  Failure.checkEncoding .utf8 (String.ofList (Text.ofCodePoints half.toList))
  return (Text.outline cs).flatMap (ofChar safe)

/-- The written form of a name or a value in a query. A space becomes a plus sign. -/
def writeField (s : String) : Except Failure (List Char) := do
  Failure.checkEncoding .utf8 s
  return (Text.outline s.toList).flatMap fun c => if c = ' ' then ['+'] else ofChar (fun _ => false) c

/-- The bytes that a written part stands for. A percent sign without two digits stands for
itself. -/
def bytesOf (cs : List Char) : List UInt8 :=
  match cs with
  | [] => []
  | '%' :: a :: b :: rest =>
    match Text.hexValue? a, Text.hexValue? b with
    | some m, some n => UInt8.ofNat (16 * m + n) :: bytesOf rest
    | _, _ => 0x25 :: bytesOf (a :: b :: rest)
  | c :: rest => (String.singleton c).toUTF8.toList ++ bytesOf rest
termination_by cs.length

def read (cs : List Char) : String :=
  Text.Utf8.textOf ⟨(bytesOf cs).toArray⟩

theorem ofChar_of_isUnreserved {safe : Char → Bool} {c : Char} (h : isUnreserved c = true) :
    ofChar safe c = [c] := by
  simp [ofChar, h]

theorem ofChar_of_safe {safe : Char → Bool} {c : Char} (h : safe c = true) :
    ofChar safe c = [c] := by
  simp [ofChar, h]

end MarketingFlow.Escape
