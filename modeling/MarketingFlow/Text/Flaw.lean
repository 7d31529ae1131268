/-!
# Flaws of bytes

Bytes that no text stands behind: where they are, and why they cannot be read.
-/

namespace MarketingFlow.Text

structure ByteFlaw where
  /-- The name of the encoding. -/
  codec : String
  reason : String
  first : Nat
  /-- How many bytes are to blame. -/
  count : Nat
  /-- The first of them. -/
  byte : Nat

def hexByte (b : Nat) : String :=
  String.ofList ['0', 'x', Nat.digitChar (b / 16), Nat.digitChar (b % 16)]

def ByteFlaw.message (f : ByteFlaw) : String :=
  "'" ++ f.codec ++ "' codec can't decode " ++
    (if f.count = 1 then "byte " ++ hexByte f.byte ++ " in position " ++ toString f.first
      else "bytes in position " ++ toString f.first ++ "-" ++ toString (f.first + f.count - 1)) ++
    ": " ++ f.reason

end MarketingFlow.Text
