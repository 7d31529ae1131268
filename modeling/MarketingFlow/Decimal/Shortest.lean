import MarketingFlow.Decimal.Binary

/-!
# Shortest decimal digits

The fewest digits that read back as the same double. The reals that round to a double form an
interval, and the digits are its point on the coarsest decimal grid that has one; of two points on
that grid the nearer one is taken, and of two equally near ones the even one.
-/

namespace MarketingFlow.Decimal

/-- The interval around a double, its ends over the common divisor `den`. -/
structure Interval where
  low : Nat
  value : Nat
  high : Nat
  den : Nat
  closed : Bool

/-- The reals that round to `mantissa · 2 ^ exponent`: half a unit to either side, only a quarter
below a power of two, ends included when the mantissa is even. -/
def Interval.around (mantissa : Nat) (exponent : Int) : Interval :=
  let quarter := exponent - 2
  let up := Nat.pow 2 quarter.toNat
  let below := if mantissa = leadingBit && -1074 < exponent then 1 else 2
  { low := (4 * mantissa - below) * up
    value := 4 * mantissa * up
    high := (4 * mantissa + 2) * up
    den := Nat.pow 2 (-quarter).toNat
    closed := mantissa % 2 == 0 }

/-- A ratio lies in the interval. -/
def Interval.holds (i : Interval) (num den : Nat) : Bool :=
  let low := i.low * den
  let high := i.high * den
  let point := num * i.den
  if i.closed then low ≤ point && point ≤ high else low < point && point < high

/-- Digits times a power of ten. -/
structure Digits where
  digits : Nat
  exponent : Int
  deriving DecidableEq, Repr

/-- The point of the grid of multiples of `10 ^ k` that lies in the interval, if one of the two
neighbours of the value does. -/
def Interval.onGrid? (i : Interval) (k : Int) : Option Nat :=
  let up := Nat.pow 10 k.toNat
  let down := Nat.pow 10 (-k).toNat
  let num := i.value * down
  let den := i.den * up
  let below := num / den
  let rest := num % den
  let inBelow := 0 < below && i.holds (below * up) down
  let inAbove := i.holds ((below + 1) * up) down
  match inBelow, inAbove with
  | true, true =>
    some (if 2 * rest < den || (2 * rest == den && below % 2 == 0) then below else below + 1)
  | true, false => some below
  | false, true => some (below + 1)
  | false, false => none

/-- Tries the grid of `10 ^ k`, then the next finer ones. -/
def Interval.coarsest (i : Interval) (k : Int) : Nat → Digits
  | 0 => ⟨0, 0⟩
  | fuel + 1 =>
    match i.onGrid? k with
    | some d => ⟨d, k⟩
    | none => i.coarsest (k - 1) fuel

/-- The shortest digits of a positive double. Seventeen digits always suffice; the search starts
at most three grids above the leading digit. -/
def shortest (mantissa : Nat) (exponent : Int) : Digits :=
  if mantissa = 0 then ⟨0, 0⟩ else
  let magnitude : Int := (mantissa.log2 : Int) + exponent + 1
  (Interval.around mantissa exponent).coarsest (Int.fdiv (magnitude * 30103) 100000 + 1) 24

end MarketingFlow.Decimal
