import MarketingFlow.Flow.Traversal
import MarketingFlow.Json.Number
import MarketingFlow.Json.Printer
import MarketingFlow.Text.Blank

/-!
# Validation

All problems of a flow, in a fixed order of checks. A flow is valid when there is none. What is
merely odd becomes a remark, which does not stop a build.
-/

namespace MarketingFlow

/-- What makes a flow unfit to build. Positions count from one. -/
inductive Problem where
  | nameMissing
  | triggerMissing
  | actionsMissing
  | entryMissing
  | metricUnnamed
  | listUnnamed
  | propertyUnnamed
  | triggerUnknown (type : String)
  | entryUndefined (entry : Json)
  | actionNotObject (position : Nat)
  | idMissing (position : Nat) (type : String)
  | idRepeated (id : String) (count : Nat)
  | actionUnknown (id type : String)
  | linkUndefined (id link : String) (target : Json)
  | reentryNotObject (v : Json)
  | reentryMode (mode : String)
  | reentryValue
  | reentryUnit (unit : Json)
  | groupsMissing (filter : String)
  | groupNotObject (filter : String) (position : Nat)
  | conditionNotObject (filter : String) (position : Nat)

/-- What an author should look at. -/
inductive Remark where
  | groupsEmpty (filter : String)
  | unreachable (id : String) (entry : Json)

def reentryModes : List String := ["once", "multiple", Reentry.timeBased]

def reentryUnits : List String := ["hours", "days", "weeks"]

def quoted (s : String) : String :=
  "\"" ++ s ++ "\""

namespace Problem

def message : Problem → String
  | nameMissing => "Flow name is required."
  | triggerMissing => "Flow trigger is required."
  | actionsMissing => "Flow must have at least one action."
  | entryMissing => "entry_action_id is required; it must reference the first action."
  | metricUnnamed => "Metric trigger requires either metric_name or metric_id."
  | listUnnamed => "List trigger requires either list_name or list_id."
  | propertyUnnamed => "Date trigger requires property_name."
  | triggerUnknown type => "Unknown trigger type: " ++ quoted type ++ "."
  | entryUndefined entry =>
    "entry_action_id " ++ quoted entry.text ++ " does not match any action ID."
  | actionNotObject position => "Action #" ++ toString position ++ " is not an object."
  | idMissing position type =>
    "Action #" ++ toString position ++ " (" ++ (if type.isEmpty then "untyped" else type) ++
      ") has no id."
  | idRepeated id count =>
    "Duplicate action ID: " ++ quoted id ++ " appears " ++ toString count ++ " times."
  | actionUnknown id type => "Action " ++ quoted id ++ " has unknown type " ++ quoted type ++ "."
  | linkUndefined id link target =>
    "Action " ++ quoted id ++ " has " ++ link ++ "=" ++ quoted target.text ++
      " which doesn't exist."
  | reentryNotObject v =>
    "settings.reentry must be an object with a \"mode\". Got: " ++ v.write .loose ++ "."
  | reentryMode mode =>
    "settings.reentry.mode must be one of: " ++ ", ".intercalate reentryModes ++ ". Got: " ++
      quoted mode ++ "."
  | reentryValue => "settings.reentry with mode \"time-based\" requires a positive \"value\"."
  | reentryUnit unit =>
    "settings.reentry.unit must be one of: " ++ ", ".intercalate reentryUnits ++ ". Got: " ++
      quoted unit.text ++ "."
  | groupsMissing filter => filter ++ " must have a \"condition_groups\" array."
  | groupNotObject filter position =>
    filter ++ " condition group #" ++ toString position ++ " is not an object."
  | conditionNotObject filter position =>
    filter ++ " condition group #" ++ toString position ++
      " has a condition that is not an object."

end Problem

namespace Remark

def message : Remark → String
  | groupsEmpty filter => filter ++ " has empty condition_groups; it will have no effect."
  | unreachable id entry =>
    "Action " ++ quoted id ++ " is not reachable from entry action " ++ quoted entry.text ++ "."

end Remark

structure Verdict where
  problems : List Problem
  remarks : List Remark

namespace Verdict

def valid (v : Verdict) : Bool :=
  v.problems.isEmpty

def errors (v : Verdict) : List String :=
  v.problems.map Problem.message

def warnings (v : Verdict) : List String :=
  v.remarks.map Remark.message

end Verdict

def problemIf (b : Bool) (p : Problem) : List Problem :=
  if b then [p] else []

/-- Items with their positions, counted from one. -/
def numbered {α : Type} (xs : List α) : List (α × Nat) :=
  xs.zipIdx 1

/-- A name of any type may be missing, but only a text can be blank. -/
def checkName (name : Json) : Except Failure (List Problem) :=
  match name with
  | .str s => .ok (problemIf (Text.AllBlank s) .nameMissing)
  | v =>
    if v.given then .error (Failure.misuse (.noMember v.typeName "strip"))
    else .ok [.nameMissing]

def checkTrigger : Trigger → List Problem
  | .metric name id _ => problemIf (!name.given && !id.given) .metricUnnamed
  | .list name id => problemIf (!name.given && !id.given) .listUnnamed
  | .date property _ => problemIf (!property.given) .propertyUnnamed
  | .other type => [.triggerUnknown type]

/-- A given target that no action has as its id. -/
def danglingTarget (ids : List String) (target : Json) : Except Failure Bool := do
  if !target.given then return false
  match ← target.asKey with
  | .str id => return !ids.contains id
  | _ => return true

def checkEntry (ids : List String) (entry : Json) : Except Failure (List Problem) := do
  return problemIf (← danglingTarget ids entry) (.entryUndefined entry)

def checkId (a : Action) (position : Nat) : List Problem :=
  if a.work.isForeign then [.actionNotObject position]
  else problemIf a.id.isEmpty (.idMissing position a.typeName)

/-- Every repeated id once, where it first appears. -/
def checkRepeats (ids : List String) : List Problem :=
  ids.eraseDups.filterMap fun id =>
    if 1 < ids.count id then some (.idRepeated id (ids.count id)) else none

def checkLinks (ids : List String) (a : Action) : Except Failure (List Problem) := do
  if a.work.isForeign then return []
  if !a.work.isKnown then return [.actionUnknown a.id a.typeName]
  let found ← a.links.mapM fun (link, target) => do
    return problemIf (← danglingTarget ids target) (.linkUndefined a.id link target)
  return found.flatten

/-- Whether a value is a number above zero. Truth values are no numbers here, and a double that is
no number is not at or below zero. -/
def positiveNumber : Json → Bool
  | .int n => 0 < n
  | .float x => !(x ≤ 0)
  | _ => false

def isReentryUnit : Json → Bool
  | .str s => reentryUnits.contains s
  | _ => false

/-- Only a time-based policy needs a value and a unit. -/
def checkReentry : Reentry → List Problem
  | .foreign v => [.reentryNotObject v]
  | .policy mode value unit =>
    if !reentryModes.contains mode then [.reentryMode mode]
    else if mode != Reentry.timeBased then []
    else problemIf (!positiveNumber value) .reentryValue ++
      problemIf (!isReentryUnit unit) (.reentryUnit unit)

def checkGroup (filter : String) (group : ConditionGroup) (position : Nat) : List Problem :=
  match group with
  | .foreign _ => [.groupNotObject filter position]
  | .conditions cs => problemIf (cs.any Condition.isForeign) (.conditionNotObject filter position)

def checkFilter (name : String) (filter : ConditionFilter) : List Problem :=
  match filter.groups with
  | none => [.groupsMissing name]
  | some gs => (numbered gs).flatMap fun (g, position) => checkGroup name g position

def remarkFilter (name : String) (filter : ConditionFilter) : List Remark :=
  match filter.groups with
  | some [] => [.groupsEmpty name]
  | _ => []

namespace Flow

def checkRequired (f : Flow) : Except Failure (List Problem) := do
  return (← checkName f.name) ++ problemIf f.trigger.isNone .triggerMissing ++
    problemIf f.actions.isEmpty .actionsMissing ++ problemIf (!f.entry.given) .entryMissing

def givenIds (f : Flow) : List String :=
  f.ids.filter (!·.isEmpty)

def checkGraph (f : Flow) : Except Failure (List Problem) := do
  if f.actions.isEmpty then return []
  let entry ← checkEntry f.givenIds f.entry
  let links ← f.actions.mapM (checkLinks f.givenIds)
  return entry ++ (numbered f.actions).flatMap (fun (a, position) => checkId a position) ++
    checkRepeats f.givenIds ++ links.flatten

/-- The filters of the flow with the names under which they are reported. -/
def filters (f : Flow) : List (String × ConditionFilter) :=
  (f.profileFilter.map fun filter => ("profile_filter", filter)).toList ++
    ((f.trigger.bind Trigger.filter?).map fun filter => ("trigger_filter", filter)).toList

/-- The entry is the id of some action, which may even be empty. -/
def entryResolves (f : Flow) : Except Failure Bool := do
  if f.actions.isEmpty then return false
  return (← f.resolve f.entry).isSome

def unreachable (f : Flow) : Except Failure (List Remark) := do
  if !(← f.entryResolves) then return []
  let reachable ← f.reachableIds
  return f.givenIds.filterMap fun id =>
    if reachable.contains id then none else some (.unreachable id f.entry)

def validate (f : Flow) : Except Failure Verdict := do
  let required ← f.checkRequired
  let graph ← f.checkGraph
  let unreachable ← f.unreachable
  return {
    problems := required ++ (f.trigger.map checkTrigger).getD [] ++ graph ++
      (f.reentry.map checkReentry).getD [] ++
      f.filters.flatMap fun (name, filter) => checkFilter name filter
    remarks := f.filters.flatMap (fun (name, filter) => remarkFilter name filter) ++ unreachable }

end Flow

end MarketingFlow
