import MarketingFlow.Decimal.Layout
import MarketingFlow.Failure

/-!
# Numbers

Integers of any size and doubles, compared by exact value: no integer is rounded on the way. A
truth value counts as zero or one.
-/

namespace MarketingFlow

inductive Number where
  | int (n : Int)
  | float (x : Float)
  deriving Inhabited

def Json.number? : Json → Option Number
  | .bool b => some (.int (if b then 1 else 0))
  | .int n => some (.int n)
  | .float x => some (.float x)
  | _ => none

namespace Number

open Decimal

def toJson : Number → Json
  | int n => .int n
  | float x => .float x

/-- A place on the extended number line: a side (zero when finite) and a ratio. -/
structure Place where
  side : Int
  num : Int
  den : Nat

def place? : Number → Option Place
  | int n => some ⟨0, n, 1⟩
  | float x =>
    match Binary.ofFloat x with
    | .notANumber => none
    | .infinite negative => some ⟨if negative then -1 else 1, 0, 1⟩
    | .finite negative mantissa exponent =>
      let (num, den) := Binary.ratio mantissa exponent
      some ⟨0, if negative then -(num : Int) else num, den⟩

def Place.compare (a b : Place) : Ordering :=
  (Ord.compare a.side b.side).then (Ord.compare (a.num * b.den) (b.num * a.den))

/-- The order by exact value; a double that is no number has none. -/
def compare? (a b : Number) : Option Ordering := do
  return (← a.place?).compare (← b.place?)

def lt (a b : Number) : Bool :=
  a.compare? b == some .lt

def le (a b : Number) : Bool :=
  a.compare? b == some .lt || a.compare? b == some .eq

def same (a b : Number) : Bool :=
  a.compare? b == some .eq

def least (a b : Number) : Number :=
  if b.lt a then b else a

def tooLarge : Failure :=
  Failure.misuse (.overflow "int too large to convert to float")

/-- The closest double. An integer past the largest one has none. -/
def toFloat (a : Number) : Except Failure Float :=
  match a with
  | float x => .ok x
  | int n =>
    let x := nearest (n < 0) n.natAbs 1
    if x.isInf then .error tooLarge else .ok x

/-- Integers multiply exactly, all else as doubles. -/
def mul (a b : Number) : Except Failure Number :=
  match a, b with
  | int m, int n => .ok (int (m * n))
  | a, b => do return float ((← a.toFloat) * (← b.toFloat))

def add (a b : Number) : Except Failure Number :=
  match a, b with
  | int m, int n => .ok (int (m + n))
  | a, b => do return float ((← a.toFloat) + (← b.toFloat))

/-- The quotient by a positive integer, as the closest double. -/
def divNat (a : Number) (d : Nat) : Except Failure Float :=
  match a with
  | float x => .ok (x / d.toFloat)
  | int n =>
    let x := nearest (n < 0) n.natAbs d
    if x.isInf then
      .error (Failure.misuse (.overflow "integer division result too large for a float"))
    else .ok x

/-- The closest integer to a double, a tie to the even one. -/
def round (x : Float) : Except Failure Int :=
  match Binary.ofFloat x with
  | .notANumber => .error (Failure.value "cannot convert float NaN to integer")
  | .infinite _ =>
    .error (Failure.misuse (.overflow "cannot convert float infinity to integer"))
  | .finite negative mantissa exponent =>
    let (num, den) := Binary.ratio mantissa exponent
    let n : Int := roundHalfEven num den
    .ok (if negative then -n else n)

/-- Powers with a whole exponent. An integer keeps to integers while the exponent is not negative;
a finite power past the largest double is an overflow, and zero has no negative power. The first two
powers of a double are exact. -/
def pow (base : Number) (exponent : Int) : Except Failure Number := do
  match base, decide (0 ≤ exponent) with
  | int n, true => return int (Int.pow n exponent.toNat)
  | base, _ =>
    let x ← base.toFloat
    if exponent = 0 then return float 1
    if exponent = 1 then return float x
    let y ← (int exponent).toFloat
    if x == 0 && y < 0 then
      throw (Failure.misuse (.divisionByZero "0.0 cannot be raised to a negative power"))
    let r := Float.pow x y
    if r.isInf && x.isFinite then
      throw (Failure.misuse (.overflow "(34, 'Numerical result out of range')"))
    return float r

end Number

end MarketingFlow
