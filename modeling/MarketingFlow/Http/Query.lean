import MarketingFlow.Http.Escape
import MarketingFlow.Text.Search

/-!
# Queries

A query is a row of names with values. Read back, the values of a name stand together, at the place
where the name comes first.
-/

namespace MarketingFlow.Query

abbrev Pairs := List (String × String)

def writePair (p : String × String) : Except Failure (List Char) := do
  return (← Escape.writeField p.1) ++ '=' :: (← Escape.writeField p.2)

def write (pairs : Pairs) : Except Failure (List Char) := do
  return ['&'].intercalate (← pairs.mapM writePair)

/-- The text of a name or a value, in which a plus sign stands for a space. -/
def readField (cs : List Char) : String :=
  Escape.read (cs.map fun c => if c = '+' then ' ' else c)

/-- The pairs as they are written. Parts without a name and a value are left out. -/
def readAll (cs : List Char) : Pairs :=
  (Text.splitAt '&' cs).filterMap fun part =>
    let (name, rest) := Text.cut (· == '=') part
    if part.isEmpty then none else some (readField name, readField (rest.drop 1))

/-- The pairs, those with the same name together. -/
def grouped (pairs : Pairs) : Pairs :=
  (pairs.map Prod.fst).eraseDups.flatMap fun name => pairs.filter (·.1 == name)

def read (cs : List Char) : Pairs :=
  grouped (readAll cs)

end MarketingFlow.Query
