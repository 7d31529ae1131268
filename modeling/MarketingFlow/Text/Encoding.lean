import MarketingFlow.Text.Quoted

/-!
# Encodings

Not every text can be written in every encoding: plain ASCII lacks most characters, and no encoding
has halves of pairs. What cannot be written is told by its first run and the place of that run.
-/

namespace MarketingFlow.Text

structure Encoding where
  name : String
  /-- The code points that the encoding has. -/
  holds : Nat → Bool
  /-- What is wrong with all others. -/
  reason : String

namespace Encoding

def ascii : Encoding :=
  ⟨"ascii", (· < 0x80), "ordinal not in range(128)"⟩

def utf8 : Encoding :=
  ⟨"utf-8", (!isHalf ·), "surrogates not allowed"⟩

/-- What is wrong with a text: its first run of code points that the encoding does not have. -/
def flaw? (e : Encoding) (text : String) : Option String :=
  let codes := codePoints text.toList
  let start := (codes.takeWhile e.holds).length
  match (codes.drop start).takeWhile (!e.holds ·) with
  | [] => none
  | run@(n :: more) =>
    let place := if more.isEmpty then
        "character '" ++ String.ofList (escapedCode n) ++ "' in position " ++ toString start
      else
        "characters in position " ++ toString start ++ "-" ++ toString (start + run.length - 1)
    some ("'" ++ e.name ++ "' codec can't encode " ++ place ++ ": " ++ e.reason)

/-- The text with an escape for every code point that the encoding does not have. -/
def withEscapes (e : Encoding) (text : String) : String :=
  String.ofList ((codePoints text.toList).flatMap fun n =>
    if e.holds n then ofCodePoint n else escapedCode n)

theorem takeWhile_holds {e : Encoding} {codes : List Nat} (h : codes.all e.holds = true) :
    codes.takeWhile e.holds = codes := by
  induction codes with
  | nil => rfl
  | cons n rest ih =>
    simp only [List.all_cons, Bool.and_eq_true] at h
    rw [List.takeWhile_cons, if_pos h.1, ih h.2]

theorem flaw?_eq_none {e : Encoding} {text : String}
    (h : (codePoints text.toList).all e.holds = true) :
    e.flaw? text = none := by
  simp [flaw?, takeWhile_holds h]

end Encoding

end MarketingFlow.Text
