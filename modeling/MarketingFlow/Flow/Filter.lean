import MarketingFlow.Json.Text

/-!
# Filters

A filter is a list of condition groups. Entries that are no objects are kept as they came, so that
the validator can point at them and nothing is lost when the filter is written back.
-/

namespace MarketingFlow

/-- The text of the `type` member, empty if there is none. -/
def Members.typeText (ms : Members) : String :=
  match ms.find? "type" with
  | some v => v.text
  | none => ""

/-- A condition with its type and its other members, or an entry that is no object. -/
inductive Condition where
  | typed (type : String) (params : Members)
  | foreign (v : Json)

/-- A group of conditions, or an entry that is no object. -/
inductive ConditionGroup where
  | conditions (cs : List Condition)
  | foreign (v : Json)

/-- Condition groups in order; none when the document has no array of them. -/
structure ConditionFilter where
  groups : Option (List ConditionGroup)

namespace Condition

def ofMembers (ms : Members) : Condition :=
  typed ms.typeText (ms.filter fun m => m.1 != "type")

/-- A missing entry reads as a condition without a type. -/
def ofJson : Json → Condition
  | .obj ms => ofMembers ms
  | .null => typed "" []
  | v => foreign v

def toJson : Condition → Json
  | typed type params => .obj (("type", .str type) :: params)
  | foreign v => v

def isForeign : Condition → Bool
  | typed _ _ => false
  | foreign _ => true

end Condition

namespace ConditionGroup

def ofMembers (ms : Members) : ConditionGroup :=
  conditions ((ms.value "conditions").items.map Condition.ofJson)

/-- A missing entry, or an object without an array of conditions, reads as an empty group. -/
def ofJson : Json → ConditionGroup
  | .obj ms => ofMembers ms
  | .null => conditions []
  | v => foreign v

def toJson : ConditionGroup → Json
  | conditions cs => .obj [("conditions", .arr (cs.map Condition.toJson))]
  | foreign v => v

end ConditionGroup

namespace ConditionFilter

def ofMembers (ms : Members) : ConditionFilter :=
  match ms.value "condition_groups" with
  | .arr gs => ⟨some (gs.map ConditionGroup.ofJson)⟩
  | _ => ⟨none⟩

def ofJson : Json → ConditionFilter
  | .obj ms => ofMembers ms
  | _ => ⟨none⟩

def toMembers (f : ConditionFilter) : Members :=
  match f.groups with
  | some gs => [("condition_groups", .arr (gs.map ConditionGroup.toJson))]
  | none => []

def toJson (f : ConditionFilter) : Json :=
  .obj f.toMembers

/-- The filter of a member that may be missing. -/
def ofMember (v : Json) : Option ConditionFilter :=
  if v.isNull then none else some (ofJson v)

end ConditionFilter

end MarketingFlow
