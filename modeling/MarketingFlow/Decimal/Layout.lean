import MarketingFlow.Decimal.Shortest

/-!
# Written forms of doubles

How chosen digits are laid out as text. A `Layout` holds every decision that differs between
formats; `fixed` writes a given number of places.
-/

namespace MarketingFlow.Decimal

/-- Where positional notation is used and how the special values are spelled. A power of ten
outside the positional range is written with a sign and at least two digits. -/
structure Layout where
  minPower : Int
  maxPower : Int
  notANumber : String
  infinity : String

/-- Positional notation from `0.0001` up to sixteen digits before the point. -/
def Layout.plain : Layout := ⟨-4, 15, "nan", "inf"⟩

/-- The same digits under the names that documents use for the special values. -/
def Layout.document : Layout := ⟨-4, 15, "NaN", "Infinity"⟩

def digitChars (n : Nat) : List Char :=
  Nat.toDigits 10 n

def zeros (n : Nat) : List Char :=
  List.replicate n '0'

/-- The digits with a point after the one that stands for `10 ^ 0`. -/
def positional (digits : List Char) (power : Int) : List Char :=
  if power < 0 then
    ['0', '.'] ++ zeros (-power - 1).toNat ++ digits
  else
    let whole := power.toNat + 1
    let head := digits.take whole ++ zeros (whole - digits.length)
    let tail := digits.drop whole
    head ++ '.' :: (if tail.isEmpty then ['0'] else tail)

/-- One digit before the point, then the power of ten. -/
def scientific (digits : List Char) (power : Int) : List Char :=
  let mark := match digits with
    | [] => []
    | [d] => [d]
    | d :: rest => d :: '.' :: rest
  let size := digitChars power.natAbs
  mark ++ ['e', if power < 0 then '-' else '+'] ++ zeros (2 - size.length) ++ size

def Layout.write (layout : Layout) (x : Float) : String :=
  match Binary.ofFloat x with
  | .notANumber => layout.notANumber
  | .infinite negative => if negative then "-" ++ layout.infinity else layout.infinity
  | .finite negative mantissa exponent =>
    let d := shortest mantissa exponent
    let digits := digitChars d.digits
    let power := d.exponent + digits.length - 1
    let body :=
      if layout.minPower ≤ power && power ≤ layout.maxPower then positional digits power
      else scientific digits power
    String.ofList (if negative then '-' :: body else body)

/-- The value rounded to `places` decimal places, a tie to the even last digit. -/
def fixed (places : Nat) (x : Float) : String :=
  match Binary.ofFloat x with
  | .notANumber => "nan"
  | .infinite negative => if negative then "-inf" else "inf"
  | .finite negative mantissa exponent =>
    let (num, den) := Binary.ratio mantissa exponent
    let units := digitChars (roundHalfEven (num * Nat.pow 10 places) den)
    let padded := zeros (places + 1 - units.length) ++ units
    let whole := padded.take (padded.length - places)
    let body := if places = 0 then whole else whole ++ '.' :: padded.drop (padded.length - places)
    String.ofList (if negative then '-' :: body else body)

end MarketingFlow.Decimal
