/-!
# Doubles as exact fractions

A finite double is an integer times a power of two. `Binary.ofFloat` reads that form off the bits,
and `nearest` goes the other way: from any ratio of integers to the closest double, a tie to the
even one. All arithmetic on the way is exact.
-/

namespace MarketingFlow.Decimal

/-- What a double stands for: a signed `mantissa · 2 ^ exponent`, an infinity or no number. -/
inductive Binary where
  | finite (negative : Bool) (mantissa : Nat) (exponent : Int)
  | infinite (negative : Bool)
  | notANumber

/-- The weight of the leading bit of a mantissa, which the bits of a double leave out. -/
def leadingBit : Nat :=
  Nat.pow 2 52

def signBit : Nat :=
  Nat.pow 2 63

def infinityBits : Nat :=
  2047 * leadingBit

namespace Binary

def ofFloat (x : Float) : Binary :=
  let bits := x.toBits.toNat
  let negative := bits / signBit == 1
  let exponent : Nat := bits / leadingBit % 2048
  let fraction := bits % leadingBit
  if exponent = 2047 then
    if fraction = 0 then .infinite negative else .notANumber
  else if exponent = 0 then .finite negative fraction (-1074)
  else .finite negative (leadingBit + fraction) ((exponent : Int) - 1075)

def ratio (mantissa : Nat) (exponent : Int) : Nat × Nat :=
  (mantissa * Nat.pow 2 exponent.toNat, Nat.pow 2 (-exponent).toNat)

end Binary

/-- The quotient rounded to a whole number, a tie to the even one. -/
def roundHalfEven (num den : Nat) : Nat :=
  let q := num / den
  let r := num % den
  if den < 2 * r || (den == 2 * r && q % 2 == 1) then q + 1 else q

def signed (negative : Bool) (bits : Nat) : Float :=
  Float.ofBits (UInt64.ofNat (if negative then bits + signBit else bits))

/-- `num / den` in units of `2 ^ e`, as a ratio. -/
def scaled (num den : Nat) (e : Int) : Nat × Nat :=
  (num * Nat.pow 2 (-e).toNat, den * Nat.pow 2 e.toNat)

/-- The double closest to `num / den`, a tie to the one with even mantissa; past the largest double
it is an infinity. -/
def nearest (negative : Bool) (num den : Nat) : Float :=
  if num = 0 then signed negative 0 else
  let guess : Int := (num.log2 : Int) - (den.log2 : Int) - 52
  let floorAt (e : Int) : Nat := (scaled num den e).1 / (scaled num den e).2
  let unit := if floorAt guess < leadingBit then guess - 1 else guess
  let unit := max unit (-1074)
  let (n, d) := scaled num den unit
  let bits := (unit + 1074).toNat * leadingBit + roundHalfEven n d
  signed negative (min bits infinityBits)

/-- The double closest to `digits · 10 ^ exponent`. Powers far outside the range of doubles are
cut off, so that no huge power is ever formed. -/
def ofDecimal (negative : Bool) (digits : Nat) (exponent : Int) : Float :=
  let size : Int := (Nat.toDigits 10 digits).length
  if digits = 0 || size + exponent < -400 then signed negative 0
  else if size + exponent > 400 then signed negative infinityBits
  else nearest negative (digits * Nat.pow 10 exponent.toNat) (Nat.pow 10 (-exponent).toNat)

/-- The quotient is off by at most half the divisor. -/
theorem roundHalfEven_le (num den : Nat) (h : 0 < den) :
    2 * (roundHalfEven num den * den) ≤ 2 * num + den ∧
      2 * num ≤ 2 * (roundHalfEven num den * den) + den := by
  have hd := Nat.div_add_mod num den
  have hm := Nat.mod_lt num h
  have hc := Nat.mul_comm den (num / den)
  simp only [roundHalfEven]
  split
  · rename_i hb
    have : den ≤ 2 * (num % den) := by
      simp only [Bool.or_eq_true, decide_eq_true_eq, Bool.and_eq_true, beq_iff_eq] at hb
      omega
    rw [Nat.add_mul, Nat.one_mul]
    omega
  · rename_i hb
    have : 2 * (num % den) ≤ den := by
      simp only [Bool.or_eq_true, decide_eq_true_eq, not_or] at hb
      omega
    omega

end MarketingFlow.Decimal
