/-!
# JSON documents

A document is a tree whose objects keep their members in the order of the text. Numbers written
without a point or an exponent are integers of any size, all others are doubles. Besides the tree,
this module has the reading of members and the notion of a value that counts as given.
-/

namespace MarketingFlow

inductive Json where
  | null
  | bool (b : Bool)
  | int (n : Int)
  | float (x : Float)
  | str (s : String)
  | arr (items : List Json)
  | obj (members : List (String × Json))
  deriving Inhabited

/-- The members of an object, or any table from names to values, in order. -/
abbrev Members := List (String × Json)

namespace Json

def isNull : Json → Bool
  | null => true
  | _ => false

/-- A value counts as given unless it is null, false, zero or empty. -/
def given : Json → Bool
  | null => false
  | bool b => b
  | int n => n != 0
  | float x => x != 0
  | str s => !s.isEmpty
  | arr xs => !xs.isEmpty
  | obj ms => !ms.isEmpty

def orElse (v d : Json) : Json :=
  if v.given then v else d

/-- The value unless it is null, then the other one. -/
def unlessNull (v d : Json) : Json :=
  if v.isNull then d else v

def orEmpty (v : Json) : Json :=
  v.orElse (.obj [])

def orNone (v : Json) : Json :=
  v.orElse (.arr [])

def items : Json → List Json
  | arr xs => xs
  | _ => []

def ofOption : Option Json → Json
  | some v => v
  | none => null

def strings (ss : List String) : Json :=
  arr (ss.map str)

/-- The name that error texts use for the type of a value. -/
def typeName : Json → String
  | null => "NoneType"
  | bool _ => "bool"
  | int _ => "int"
  | float _ => "float"
  | str _ => "str"
  | arr _ => "list"
  | obj _ => "dict"

/-- Arrays and objects cannot be keys of a table. -/
def isKey : Json → Bool
  | arr _ => false
  | obj _ => false
  | _ => true

@[simp] theorem isNull_iff {v : Json} : v.isNull = true ↔ v = null := by
  cases v <;> simp [isNull]

theorem given_ne_null {v : Json} (h : v.given = true) : v ≠ null := by
  rintro rfl
  simp [given] at h

@[simp] theorem given_str {s : String} : (str s).given = true ↔ s ≠ "" := by
  simp [given]

end Json

namespace Members

def find? (ms : Members) (key : String) : Option Json :=
  ms.lookup key

def value (ms : Members) (key : String) : Json :=
  (ms.find? key).getD .null

def has (ms : Members) (key : String) : Bool :=
  (ms.find? key).isSome

/-- Replaces the value under a key in its place, or adds the member at the end. -/
def set (ms : Members) (key : String) (v : Json) : Members :=
  match ms with
  | [] => [(key, v)]
  | (k, w) :: rest => if k = key then (k, v) :: rest else (k, w) :: set rest key v

/-- The table of a list of entries: the last value of a key, in the place of its first. -/
def ofEntries (entries : List (String × Json)) : Members :=
  entries.foldl (fun ms m => ms.set m.1 m.2) []

/-- Adds the member at the end unless the key is taken. -/
def setDefault (ms : Members) (key : String) (v : Json) : Members :=
  if ms.has key then ms else ms ++ [(key, v)]

def compact (ms : Members) : Members :=
  ms.filter fun m => !m.2.isNull

theorem mem_compact_iff {ms : Members} {m : String × Json} :
    m ∈ ms.compact ↔ m ∈ ms ∧ m.2 ≠ .null := by
  simp [compact, ← Json.isNull_iff]

theorem value_set_self (ms : Members) (key : String) (v : Json) :
    (ms.set key v).value key = v := by
  induction ms with
  | nil => simp [set, value, find?]
  | cons m rest ih =>
    obtain ⟨k, w⟩ := m
    by_cases h : k = key
    · simp [set, value, find?, h]
    · simp only [set, h, if_false, value, find?, List.lookup_cons]
      rw [beq_false_of_ne (Ne.symm h)]
      exact ih

end Members

end MarketingFlow
