/-!
# Bytes in plain characters

Three bytes make four characters, each of which stands for six bits. At the end, signs fill the
last four up.
-/

namespace MarketingFlow.Text.Base64

/-- The character for six bits. -/
def digit (n : Nat) : Char :=
  if n < 26 then Char.ofNat (0x41 + n)
  else if n < 52 then Char.ofNat (0x61 + (n - 26))
  else if n < 62 then Char.ofNat (0x30 + (n - 52))
  else if n = 62 then '+'
  else '/'

def filler : Char := '='

/-- The first characters of the four for three bytes. -/
def digits (count a b c : Nat) : List Char :=
  let n := (a * 256 + b) * 256 + c
  [digit (n / 262144), digit (n / 4096 % 64), digit (n / 64 % 64), digit (n % 64)].take count

def encode : List UInt8 → List Char
  | [] => []
  | [a] => digits 2 a.toNat 0 0 ++ [filler, filler]
  | [a, b] => digits 3 a.toNat b.toNat 0 ++ [filler]
  | a :: b :: c :: rest => digits 4 a.toNat b.toNat c.toNat ++ encode rest

theorem length_encode (bs : List UInt8) : (encode bs).length = (bs.length + 2) / 3 * 4 := by
  fun_induction encode bs with
  | case1 => rfl
  | case2 => simp [digits]
  | case3 => simp [digits]
  | case4 a b c rest ih =>
    simp only [List.length_append, List.length_cons, ih, digits, List.take_succ_cons,
      List.length_nil, List.take_nil]
    omega

end MarketingFlow.Text.Base64
