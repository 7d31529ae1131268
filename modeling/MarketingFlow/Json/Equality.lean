import MarketingFlow.Json.Number

/-!
# Equality of documents

Values are equal when they are the same whatever their written form: numbers by value, truth values
as zero and one, objects whatever the order of their members. A double that is no number is not
equal to itself; but inside of an array or an object it counts as what it is, and so it does as a
key.
-/

namespace MarketingFlow

namespace Json

def isNaN : Json → Bool
  | float x => x.isNaN
  | _ => false

mutual

def same (v w : Json) : Bool :=
  match v, w with
  | null, null => true
  | str s, str t => s == t
  | arr xs, arr ys => sameItems xs ys
  | obj ms, obj ns => ms.length == ns.length && sameMembers ms ns
  | v, w =>
    match v.number?, w.number? with
    | some a, some b => a.same b
    | _, _ => false

def sameItems : List Json → List Json → Bool
  | [], [] => true
  | x :: xs, y :: ys => (same x y || (x.isNaN && y.isNaN)) && sameItems xs ys
  | _, _ => false

/-- Every member of the first has an equal partner in the second. -/
def sameMembers : List (String × Json) → Members → Bool
  | [], _ => true
  | (k, v) :: rest, ns =>
    (match ns.find? k with
      | some w => same v w || (v.isNaN && w.isNaN)
      | none => false) && sameMembers rest ns

end

/-- The two are the same key. -/
def sameKey (v w : Json) : Bool :=
  same v w || (v.isNaN && w.isNaN)

def isOneOf (v : Json) (vs : List Json) : Bool :=
  vs.any v.same

@[simp] theorem same_str (s t : String) : same (str s) (str t) = (s == t) := by
  simp [same]

end Json

end MarketingFlow
