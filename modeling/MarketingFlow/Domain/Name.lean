import MarketingFlow.Domain.Label
import MarketingFlow.Text.Search

/-!
# Names of domains

A name is a row of labels with points between them. It may end in a point.
-/

namespace MarketingFlow.Domain.Name

/-- The points of several scripts. -/
def isPoint (c : Char) : Bool :=
  c == '.' || c == '\u3002' || c == '\uff0e' || c == '\uff61'

/-- The longest name, without a point at its end. -/
def longest : Nat := 253

/-- The labels of a name, and whether a point follows the last one. -/
def labels (name : List Char) : Except Flaw (List (List Char) × Bool) := do
  if longest + 1 < (Text.codePoints name).length then throw .nameTooLong
  let parts := Text.splitWhere isPoint name
  if parts == [[]] then throw .noName
  if parts.getLast? == some [] then return (parts.dropLast, true)
  else return (parts, false)

def joined (parts : List (List Char)) (endsInPoint : Bool) : List Char :=
  ['.'].intercalate (if endsInPoint then parts ++ [[]] else parts)

def write (name : List Char) : Except Flaw (List Char) := do
  let (parts, endsInPoint) ← labels name
  let written := joined (← parts.mapM Label.write) endsInPoint
  if (if endsInPoint then longest + 1 else longest) < written.length then throw .nameTooLong
  return written

def read (name : List Char) : Except Flaw (List Char) := do
  let (parts, endsInPoint) ← labels name
  return joined (← parts.mapM Label.read) endsInPoint

end MarketingFlow.Domain.Name
