/-!
# Searching texts

Substrings, leading parts and replacement of single characters, on the characters of a text.
-/

namespace MarketingFlow.Text

/-- Some position of the text, its end included, starts with the pattern. -/
def occursIn (pattern text : List Char) : Bool :=
  match text with
  | [] => pattern.isEmpty
  | c :: rest => pattern.isPrefixOf (c :: rest) || occursIn pattern rest

/-- The text holds the pattern somewhere; every text holds the empty one. -/
def contains (text pattern : String) : Bool :=
  occursIn pattern.toList text.toList

def startsWith (text start : String) : Bool :=
  start.toList.isPrefixOf text.toList

/-- Every character that `swap` knows gives way to its text. -/
def replaceChars (swap : Char → Option String) (text : String) : String :=
  String.ofList (text.toList.flatMap fun c =>
    match swap c with
    | some t => t.toList
    | none => [c])

/-- Drops every occurrence of a character at the end of a text. -/
def trimEndChar (c : Char) (text : String) : String :=
  String.ofList (text.toList.reverse.dropWhile (· == c)).reverse

/-- The text before the first character that fulfils the test, and the text from it on. -/
def cut (stop : Char → Bool) (cs : List Char) : List Char × List Char :=
  (cs.takeWhile (!stop ·), cs.dropWhile (!stop ·))

def splitWhere (isSeparator : Char → Bool) (cs : List Char) : List (List Char) :=
  cs.foldr (fun c parts =>
    if isSeparator c then [] :: parts
    else match parts with
      | [] => [[c]]
      | part :: rest => (c :: part) :: rest) [[]]

def splitAt (separator : Char) (cs : List Char) : List (List Char) :=
  splitWhere (· == separator) cs

theorem append_cut (stop : Char → Bool) (cs : List Char) : (cut stop cs).1 ++ (cut stop cs).2 = cs :=
  List.takeWhile_append_dropWhile

theorem splitWhere_ne_nil (isSeparator : Char → Bool) (cs : List Char) :
    splitWhere isSeparator cs ≠ [] := by
  cases cs with
  | nil => simp [splitWhere]
  | cons c rest =>
    rw [splitWhere, List.foldr_cons]
    split
    · simp
    · split <;> simp

theorem occursIn_iff {pattern text : List Char} :
    occursIn pattern text = true ↔ ∃ before after, text = before ++ pattern ++ after := by
  induction text with
  | nil =>
    constructor
    · intro h
      exact ⟨[], [], by simp_all [occursIn]⟩
    · rintro ⟨before, after, h⟩
      simp_all [occursIn]
  | cons c rest ih =>
    rw [occursIn, Bool.or_eq_true, ih, List.isPrefixOf_iff_prefix]
    constructor
    · rintro (⟨after, h⟩ | ⟨before, after, h⟩)
      · exact ⟨[], after, by simp [h]⟩
      · exact ⟨c :: before, after, by simp [h]⟩
    · rintro ⟨before, after, h⟩
      cases before with
      | nil => exact .inl ⟨after, by simpa using h.symm⟩
      | cons d before =>
        simp only [List.cons_append, List.cons.injEq] at h
        exact .inr ⟨before, after, by simpa using h.2⟩

end MarketingFlow.Text
