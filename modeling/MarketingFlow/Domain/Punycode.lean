import MarketingFlow.Text.Digit
import MarketingFlow.Text.CodePoint

/-!
# Labels in plain characters

The label of a domain as plain characters: first its own plain characters, then, after a hyphen, the
others. Each is a step from the one before, in the order of code points and places, and each step is
a number in base 36 whose digits say by themselves which one is the last. The number of digits that
are expected adapts to the steps so far.
-/

namespace MarketingFlow.Domain.Punycode

def base : Nat := 36
def firstBias : Nat := 72

/-- The first code point that is not plain. -/
def firstOther : Nat := 0x80

def isPlain (c : Char) : Bool :=
  c.toNat < firstOther

/-- A digit below the threshold is the last one. `weight` is `base` times one more than the place of
the digit. -/
def threshold (weight bias : Nat) : Nat :=
  max 1 (min 26 (weight - bias))

/-- Divides by 35 until at most 455 is left, and counts how often. -/
def settle (delta : Nat) : Nat × Nat :=
  if 455 < delta then
    let (rest, times) := settle (delta / 35)
    (rest, times + 1)
  else (delta, 0)
termination_by delta
decreasing_by omega

def adapt (delta count : Nat) (isFirst : Bool) : Nat :=
  let delta := delta / (if isFirst then 700 else 2)
  let (rest, times) := settle (delta + delta / count)
  base * times + base * rest / (rest + 38)

/-! ## Writing -/

def digit (n : Nat) : Char :=
  if n < 26 then Char.ofNat (0x61 + n) else Char.ofNat (0x30 + (n - 26))

/-- The digits of a number. -/
def writeNumber (bias weight n : Nat) : List Char :=
  let t := threshold weight bias
  if n < t then [digit n]
  else
    let span := base - t
    if 1 < span then digit (t + (n - t) % span) :: writeNumber bias (weight + base) ((n - t) / span)
    else [digit n]
termination_by n
decreasing_by
  exact Nat.lt_of_le_of_lt (Nat.div_le_self _ _)
    (Nat.sub_lt (by simp only [t, threshold] at *; omega) (by simp only [threshold]; omega))

/-- How writing goes on: the steps since the last character written, the bias, the number of
characters written so far and the number of plain ones. -/
structure Writing where
  delta : Nat
  bias : Nat
  count : Nat
  plain : Nat

/-- Writes all places of one code point, going through the label once. -/
def writeAll (code : Nat) : Writing → List Nat → List Char × Writing
  | w, [] => ([], w)
  | w, n :: rest =>
    if n < code then writeAll code { w with delta := w.delta + 1 } rest
    else if n = code then
      let digits := writeNumber w.bias base w.delta
      let (more, w) := writeAll code
        { w with
          delta := 0
          bias := adapt w.delta (w.count + 1) (w.count == w.plain)
          count := w.count + 1 } rest
      (digits ++ more, w)
    else writeAll code w rest

/-- Writes the places of the code points given, which go up; the code points before `next` are
done. -/
def writeOthers (label : List Nat) (next : Nat) : Writing → List Nat → List Char
  | _, [] => []
  | w, code :: codes =>
    let start := { w with delta := w.delta + (code - next) * (w.count + 1) }
    let (digits, w) := writeAll code start label
    digits ++ writeOthers label (code + 1) { w with delta := w.delta + 1 } codes

def write (label : List Char) : List Char :=
  let plain := label.filter isPlain
  let all := Text.codePoints label
  let codes := (all.filter (firstOther ≤ ·)).eraseDups.mergeSort (· ≤ ·)
  let digits := writeOthers all firstOther ⟨0, firstBias, plain.length, plain.length⟩ codes
  if plain.isEmpty then digits else plain ++ '-' :: digits

/-! ## Reading -/

/-- The value of a digit of either case. -/
def digitValue? (c : Char) : Option Nat :=
  if 'a' ≤ c && c ≤ 'z' then some (c.toNat - 0x61)
  else if 'A' ≤ c && c ≤ 'Z' then some (c.toNat - 0x41)
  else if '0' ≤ c && c ≤ '9' then some (c.toNat - 0x30 + 26)
  else none

/-- Reads a number, with what follows it. `factor` is what the next digit counts for. -/
def readNumber? (bias weight factor value : Nat) : List Char → Option (Nat × List Char)
  | [] => none
  | c :: rest => do
    let d ← digitValue? c
    let t := threshold weight bias
    let value := value + d * factor
    if d < t then some (value, rest)
    else readNumber? bias (weight + base) (factor * (base - t)) value rest

theorem length_readNumber? {bias weight factor value n : Nat} {cs rest : List Char}
    (h : readNumber? bias weight factor value cs = some (n, rest)) : rest.length < cs.length := by
  induction cs generalizing weight factor value with
  | nil => simp [readNumber?] at h
  | cons c cs ih =>
    simp only [readNumber?, Option.bind_eq_bind, Option.bind_eq_some_iff] at h
    obtain ⟨d, -, h⟩ := h
    split at h
    · simp only [Option.some.injEq, Prod.mk.injEq] at h
      simp [← h.2]
    · exact Nat.lt_succ_of_lt (ih h)

def lastCode : Nat := 0x10ffff

/-- Reads the steps and puts a code point at each. `done` is the label so far; the last code point
went to the place before `place`. -/
def readOthers? (done : List Nat) (code place bias : Nat) (isFirst : Bool) (digits : List Char) :
    Option (List Nat) :=
  match digits with
  | [] => some done
  | c :: cs =>
    match h : readNumber? bias base 1 0 (c :: cs) with
    | none => none
    | some (delta, rest) =>
      let count := done.length + 1
      let code := code + (place + delta) / count
      let place := (place + delta) % count
      if lastCode < code then none
      else readOthers? (done.insertIdx place code) code (place + 1)
        (adapt delta count isFirst) false rest
termination_by digits.length
decreasing_by exact length_readNumber? h

/-- The label that plain characters stand for. -/
def read? (cs : List Char) : Option (List Char) :=
  Text.ofCodePoints <$> match cs.reverse.dropWhile (· != '-') with
    | [] => readOthers? [] firstOther 0 firstBias true cs
    | _ :: plain =>
      readOthers? (plain.reverse.map Char.toNat) firstOther 0 firstBias true
        (cs.drop (plain.length + 1))

theorem one_le_threshold (weight bias : Nat) : 1 ≤ threshold weight bias :=
  Nat.le_max_left _ _

theorem threshold_le (weight bias : Nat) : threshold weight bias ≤ 26 := by
  simp only [threshold]
  omega

end MarketingFlow.Domain.Punycode
