import MarketingFlow.Json.Reader
import MarketingFlow.Text.Utf8
import MarketingFlow.Text.Wide

/-!
# Documents from bytes

A document begins with a character of plain ASCII, so the zeros among its first bytes tell in which
encoding it is. In UTF-8 a mark of the byte order may stand in front.
-/

namespace MarketingFlow.Json

inductive DocumentEncoding where
  | narrow
  | marked
  | wide16 (o : Text.Wide.ByteOrder)
  | wide32 (o : Text.Wide.ByteOrder)
  deriving DecidableEq, Repr

/-- The encoding of a document, by its first bytes. -/
def encodingOf : List Nat → DocumentEncoding
  | 0xef :: 0xbb :: 0xbf :: _ => .marked
  | [0, _] => .wide16 .big
  | [_, 0] => .wide16 .little
  | 0 :: 0 :: _ :: _ :: _ => .wide32 .big
  | 0 :: _ :: _ :: _ :: _ => .wide16 .big
  | _ :: 0 :: 0 :: 0 :: _ => .wide32 .little
  | _ :: 0 :: _ :: _ :: _ => .wide16 .little
  | _ => .narrow

def charsOf (bs : List Nat) : Except Text.ByteFlaw (List Char) :=
  match encodingOf bs with
  | .narrow => Text.Utf8.textAt 0 bs
  | .marked => Text.Utf8.textAt 0 (bs.drop 3)
  | .wide16 o => Text.Wide.decode16 o bs
  | .wide32 o => Text.Wide.decode32 o bs

/-- How many arrays and objects of an answer may begin inside of each other. -/
def deepestInAnswer : Nat := 977

/-- Reads bytes that hold one document. -/
def readBytes (bytes : ByteArray) : Except Failure Json :=
  match charsOf (bytes.toList.map UInt8.toNat) with
  | .error flaw => .error { cause := .unreadable flaw.message }
  | .ok cs =>
    match readUnmarked deepestInAnswer cs with
    | .ok v => .ok v
    | .error e => .error { cause := e.cause (String.ofList cs) }

end MarketingFlow.Json
