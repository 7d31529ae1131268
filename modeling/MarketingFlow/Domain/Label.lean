import MarketingFlow.Domain.Bidirectional
import MarketingFlow.Domain.Context
import MarketingFlow.Domain.Punycode

/-!
# Labels

A label is the part of a domain's name between two points. One with characters that are not plain
has a coded form, which begins with a sign of its own.
-/

namespace MarketingFlow.Domain.Label

/-- The sign of a coded label. -/
def codedSign : List Char := "xn--".toList

def longest : Nat := 63

/-- The characters of a label one by one; `before` is reversed. -/
def checkCharacters (label : String) (before : List Char) : List Char → Except Flaw Unit
  | [] => .ok ()
  | c :: after =>
    let place := before.length + 1
    let code := (Text.codePoints (c :: after)).headD 0
    let next := checkCharacters label (c :: before) after
    if isLetter c then next
    else if isJoiner c then
      if joinerFits c before after then next
      else .error (.badJoiner code place label)
    else if isDependent c then
      if dependentFits c before after then next
      else .error (.outOfContext code place label)
    else .error (.notAllowed code place label)

def check (label : List Char) : Except Flaw Unit := do
  if label.isEmpty then throw .noLabel
  if !Text.isComposed label then throw .notComposed
  if ((Text.outline label).drop 2).take 2 == ['-', '-'] then throw .reservedHyphens
  if label.head? == some '-' || label.getLast? == some '-' then throw .outerHyphen
  if label.head?.any Text.isMark then throw .markAtStart
  checkCharacters (String.ofList label) [] label
  Direction.checkLabel label

/-- The label that a text shows, coded or not. -/
def read (cs : List Char) : Except Flaw (List Char) := do
  if !cs.all Punycode.isPlain then
    check cs
    return cs
  let label := cs.map Char.toLower
  if codedSign.isPrefixOf label then
    let code := label.drop codedSign.length
    if code.isEmpty then throw .emptyCode
    if code.getLast? == some '-' then throw .hyphenAfterCode
    match Punycode.read? code with
    | none => throw .badCode
    | some label =>
      check label
      return label
  else
    check label
    return label

def write (label : List Char) : Except Flaw (List Char) := do
  let written ←
    if label.all Punycode.isPlain then do
      let _ ← read label
      pure label
    else do
      check label
      pure (codedSign ++ Punycode.write label)
  if longest < written.length then throw .labelTooLong
  return written

end MarketingFlow.Domain.Label
