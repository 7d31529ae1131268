import MarketingFlow.Text.Encoding

/-!
# Lines for readers

A line goes to a reader as plain text. The control sequences that a terminal takes for colours and
cursor moves are dropped from it: an escape, a bracket, any digits and marks, and a letter.
-/

namespace MarketingFlow.CommandLine.Line

def escape : Char := '\x1b'

/-- What may stand between the bracket and the letter of a control sequence. -/
def isParameter (c : Char) : Bool :=
  c.isDigit || c == ';' || c == '?'

/-- What follows the control sequence that a text starts with, if it starts with one. -/
def afterSequence? : List Char → Option (List Char)
  | c :: '[' :: rest =>
    match rest.dropWhile isParameter with
    | letter :: after => if c = escape && letter.isAlpha then some after else none
    | [] => none
  | _ => none

theorem length_afterSequence? {cs after : List Char} (h : afterSequence? cs = some after) :
    after.length < cs.length := by
  match cs with
  | [] => simp [afterSequence?] at h
  | [_] => simp [afterSequence?] at h
  | c :: d :: rest =>
    unfold afterSequence? at h
    split at h
    · next rest' heq =>
      simp only [List.cons.injEq] at heq
      obtain ⟨_, _, rfl⟩ := heq
      have shorter := (List.dropWhile_suffix (l := rest) isParameter).length_le
      split at h
      · next letter after' hd =>
        rw [hd] at shorter
        split at h
        · cases h
          simp at shorter ⊢
          omega
        · cases h
      · cases h
    · cases h

/-- The text without control sequences. -/
def dropSequences (cs : List Char) : List Char :=
  match cs with
  | [] => []
  | c :: rest =>
    match h : afterSequence? (c :: rest) with
    | some after =>
      have : after.length < (c :: rest).length := length_afterSequence? h
      dropSequences after
    | none => c :: dropSequences rest
termination_by cs.length
decreasing_by
  · exact this
  · simp

def plain (line : String) : String :=
  String.ofList (dropSequences line.toList)

end MarketingFlow.CommandLine.Line
