import MarketingFlow.Flow.Settings
import MarketingFlow.Flow.Trigger

/-!
# Flows

A trigger and a graph of actions that name each other by id. A flow holds whatever structure its
document has; what is wrong with it is for validation to say. An id stands for the first action
that has it.
-/

namespace MarketingFlow

structure Flow where
  name : Json
  trigger : Option Trigger
  actions : List Action
  entry : Json
  profileFilter : Option ConditionFilter
  settings : Option Settings
  tags : List Json

namespace Flow

def ofMembers (ms : Members) : Except Failure Flow := do
  let trigger := match ms.value "trigger" with
    | .obj t => some (Trigger.ofMembers t)
    | _ => none
  let settings := match ms.value "settings" with
    | .obj s => some (Settings.ofMembers s)
    | _ => none
  let tags ← ((ms.value "tags").orElse (.arr [])).iterate
  return {
    name := (ms.value "name").orElse (.str "")
    trigger := trigger
    actions := (ms.value "actions").items.map Action.ofJson
    entry := (ms.value "entry_action_id").orElse (.str "")
    profileFilter := ConditionFilter.ofMember (ms.value "profile_filter")
    settings := settings
    tags := tags }

def ofJson (v : Json) : Except Failure Flow := do
  ofMembers (← v.members "get")

def toJson (f : Flow) : Json :=
  .obj (
    [("name", f.name), ("trigger", Json.ofOption (f.trigger.map Trigger.toJson)),
      ("actions", .arr (f.actions.map Action.toJson)), ("entry_action_id", f.entry)] ++
    (match f.profileFilter with
      | some filter => [("profile_filter", filter.toJson)]
      | none => []) ++
    (match f.settings with
      | some settings => [("settings", settings.toJson)]
      | none => []) ++
    (if f.tags.isEmpty then [] else [("tags", .arr f.tags)]))

def ids (f : Flow) : List String :=
  f.actions.map Action.id

def find? (f : Flow) (id : String) : Option Action :=
  f.actions.find? (·.id == id)

/-- The action that a link or an entry names. Only texts name actions, but any key may be asked. -/
def resolve (f : Flow) (target : Json) : Except Failure (Option Action) := do
  match ← target.asKey with
  | .str id => return f.find? id
  | _ => return none

def get (f : Flow) (target : Json) : Except Failure (Option Action) :=
  if target.given then f.resolve target else .ok none

def successors (f : Flow) (a : Action) : Except Failure (List Action) := do
  return (← a.nextIds.mapM f.resolve).filterMap id

def actionsOfType (f : Flow) (types : List String) : List Action :=
  f.actions.filter fun a => types.contains a.typeName

def hasActionType (f : Flow) (type : String) : Bool :=
  f.actions.any fun a => a.typeName == type

def reentry (f : Flow) : Option Reentry :=
  f.settings.bind Settings.reentry

end Flow

end MarketingFlow
