import MarketingFlow.Flow.Filter

/-!
# Triggers

What starts a flow: an event of a metric, a new member of a list, or a date of the profile. A
trigger of any other type keeps nothing but its type.
-/

namespace MarketingFlow

inductive Trigger where
  | metric (name id : Json) (filter : Option ConditionFilter)
  | list (name id : Json)
  | date (property offset : Json)
  | other (type : String)

namespace Trigger

def typeName : Trigger → String
  | metric _ _ _ => "metric"
  | list _ _ => "list"
  | date _ _ => "date-property"
  | other type => type

def ofMembers (ms : Members) : Trigger :=
  match ms.typeText with
  | "metric" =>
    metric ((ms.value "metric_name").orElse (.str "")) (ms.value "metric_id")
      (ConditionFilter.ofMember (ms.value "trigger_filter"))
  | "list" => list ((ms.value "list_name").orElse (.str "")) (ms.value "list_id")
  | "date-property" =>
    date ((ms.value "property_name").orElse (.str "")) (ms.value "offset_days")
  | type => other type

def ofJson (v : Json) : Except Failure Trigger := do
  return ofMembers (← v.members "get")

/-- Optional members that are missing are not written. -/
def toMembers : Trigger → Members
  | metric name id filter =>
    Members.compact [("type", .str "metric"), ("metric_name", name), ("metric_id", id),
      ("trigger_filter", Json.ofOption (filter.map ConditionFilter.toJson))]
  | list name id =>
    Members.compact [("type", .str "list"), ("list_name", name), ("list_id", id)]
  | date property offset =>
    Members.compact [("type", .str "date-property"), ("property_name", property),
      ("offset_days", offset)]
  | other type => [("type", .str type)]

def toJson (t : Trigger) : Json :=
  .obj t.toMembers

/-- The id of the account's resource, if the trigger carries one. -/
def externalId : Trigger → Json
  | metric _ id _ => id
  | list _ id => id
  | date _ _ => .null
  | other _ => .null

def displayName : Trigger → Json
  | metric name id _ => (name.orElse id).orElse (.str "")
  | list name id => (name.orElse id).orElse (.str "")
  | date property _ => property
  | other _ => .str "Unknown"

def filter? : Trigger → Option ConditionFilter
  | metric _ _ filter => filter
  | _ => none

end Trigger

end MarketingFlow
