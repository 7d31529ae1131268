import MarketingFlow.Text.CodePoint
import MarketingFlow.Text.Flaw

/-!
# Texts from bytes

A text in UTF-8 is read one character at a time. The first bytes that belong to no character end
the reading, and the flaw says where they are; a lenient reader puts a mark in the place of all such
bytes instead. Files may end their lines in several ways; inside a text only the line feed is kept.
-/

namespace MarketingFlow.Text.Utf8

inductive Reason where
  | start
  | continuation
  | cutOff
  deriving DecidableEq, Repr

def Reason.text : Reason → String
  | start => "invalid start byte"
  | continuation => "invalid continuation byte"
  | cutOff => "unexpected end of data"

/-- The kinds of first bytes: how many bytes follow, and the range of the next one. -/
structure Lead where
  more : Nat
  low : Nat
  high : Nat
  bits : Nat

def lead? (a : Nat) : Option Lead :=
  if a < 0x80 then some ⟨0, 0, 0, a⟩
  else if a < 0xc2 then none
  else if a < 0xe0 then some ⟨1, 0x80, 0xbf, a - 0xc0⟩
  else if a = 0xe0 then some ⟨2, 0xa0, 0xbf, a - 0xe0⟩
  else if a = 0xed then some ⟨2, 0x80, 0x9f, a - 0xe0⟩
  else if a < 0xf0 then some ⟨2, 0x80, 0xbf, a - 0xe0⟩
  else if a = 0xf0 then some ⟨3, 0x90, 0xbf, a - 0xf0⟩
  else if a = 0xf4 then some ⟨3, 0x80, 0x8f, a - 0xf0⟩
  else if a < 0xf4 then some ⟨3, 0x80, 0xbf, a - 0xf0⟩
  else none

/-- Reads the bytes that follow a first byte. `seen` of them have been read and `bits` is their
value so far. Without an end, the reason and the number of bytes that are in order. -/
def follow (more low high bits seen : Nat) (bs : List Nat) :
    Except (Reason × Nat) (Nat × List Nat) :=
  match more, bs with
  | 0, rest => .ok (bits, rest)
  | _ + 1, [] => .error (.cutOff, seen)
  | more + 1, b :: rest =>
    if low ≤ b && b ≤ high then follow more 0x80 0xbf (64 * bits + (b - 0x80)) (seen + 1) rest
    else .error (.continuation, seen)

theorem length_follow_le {more low high bits seen : Nat} {bs : List Nat} {r : Nat × List Nat}
    (h : follow more low high bits seen bs = .ok r) : r.2.length ≤ bs.length := by
  fun_induction follow more low high bits seen bs with
  | case1 => simp only [Except.ok.injEq] at h; subst h; simp
  | case2 => simp at h
  | case3 _ _ _ _ _ _ _ _ ih => exact Nat.le_succ_of_le (ih h)
  | case4 => simp at h

/-- The character that begins with a byte, and the bytes after it. If there is none: why, and how
many bytes are to blame. -/
def next (a : Nat) (rest : List Nat) : Except (Reason × Nat) (Char × List Nat) :=
  match lead? a with
  | none => .error (.start, 1)
  | some l =>
    match follow l.more l.low l.high l.bits 1 rest with
    | .error flaw => .error flaw
    | .ok (code, rest) => .ok (Char.ofNat code, rest)

theorem length_next_le {a : Nat} {rest : List Nat} {r : Char × List Nat}
    (h : next a rest = .ok r) : r.2.length ≤ rest.length := by
  rw [next] at h
  split at h
  · cases h
  · split at h
    · cases h
    · next l _ _ _ found =>
      cases h
      exact length_follow_le found

/-- The characters of bytes that begin at a position. -/
def decodeAt (position : Nat) (bs : List Nat) : Except ByteFlaw (List Char) :=
  match bs with
  | [] => .ok []
  | a :: rest =>
    match found : next a rest with
    | .error (reason, count) => .error ⟨"utf-8", reason.text, position, count, a⟩
    | .ok (c, rest') =>
      have : rest'.length ≤ rest.length := length_next_le found
      match decodeAt (position + c.utf8Size) rest' with
      | .error flaw => .error flaw
      | .ok cs => .ok (c :: cs)
termination_by bs.length
decreasing_by
  simp only [List.length_cons]
  omega

def textAt (position : Nat) (bs : List Nat) : Except ByteFlaw (List Char) :=
  (decodeAt position bs).map ofOutline

def decode (bytes : ByteArray) : Except ByteFlaw (List Char) :=
  textAt 0 (bytes.toList.map UInt8.toNat)

/-- The mark in the place of bytes that belong to no character. -/
def replacement : Char := '\ufffd'

/-- The characters of bytes, with a mark for the bytes that belong to none. -/
def decodeLeniently (bs : List Nat) : List Char :=
  match bs with
  | [] => []
  | a :: rest =>
    match h : next a rest with
    | .error (_, count) => replacement :: decodeLeniently (rest.drop (count - 1))
    | .ok (c, rest') =>
      have : rest'.length ≤ rest.length := length_next_le h
      c :: decodeLeniently rest'
termination_by bs.length
decreasing_by
  · simp only [List.length_drop, List.length_cons]
    omega
  · simp only [List.length_cons]
    omega

def textOf (bytes : ByteArray) : String :=
  String.ofList (ofOutline (decodeLeniently (bytes.toList.map UInt8.toNat)))

/-- Every way to end a line becomes a line feed. -/
def oneLineEnd : List Char → List Char
  | '\r' :: '\n' :: rest => '\n' :: oneLineEnd rest
  | '\r' :: rest => '\n' :: oneLineEnd rest
  | c :: rest => c :: oneLineEnd rest
  | [] => []

end MarketingFlow.Text.Utf8
