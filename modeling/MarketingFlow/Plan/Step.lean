import MarketingFlow.Json.Basic

/-!
# Steps of a plan

A plan is the list of steps that a person would take in the visual builder. Each step names one
operation; steps that belong to an action carry its id, all others belong to the flow.
-/

namespace MarketingFlow

inductive Operation where
  | createFlow
  | selectTrigger
  | addAction
  | configureDelay
  | configureMessage
  | configureSplit
  | configureVariants
  | dismissPanel
  | setReentry
  deriving DecidableEq, Repr

namespace Operation

def all : List Operation :=
  [createFlow, selectTrigger, addAction, configureDelay, configureMessage, configureSplit,
    configureVariants, dismissPanel, setReentry]

def name : Operation → String
  | createFlow => "create-flow"
  | selectTrigger => "select-trigger"
  | addAction => "add-action"
  | configureDelay => "configure-delay"
  | configureMessage => "configure-message"
  | configureSplit => "configure-split"
  | configureVariants => "configure-ab-split"
  | dismissPanel => "dismiss-panel"
  | setReentry => "set-reentry"

def ofName? (name : String) : Option Operation :=
  all.find? fun op => op.name == name

theorem ofName?_name (op : Operation) : ofName? op.name = some op := by
  cases op <;> decide

end Operation

/-- One step. When a critical step fails, the whole run stops. -/
structure Step where
  index : Int
  operation : Operation
  actionId : Option String
  params : Members
  critical : Bool

namespace Step

def owner? (s : Step) : Option String :=
  s.actionId.filter (!·.isEmpty)

def label (s : Step) : String :=
  "step " ++ toString s.index ++ ": " ++ s.operation.name ++
    (match s.owner? with
      | some id => " [" ++ id ++ "]"
      | none => "")

end Step

/-- Steps in order, the ids of the actions in the order in which they are added, and what the
author has to complete by hand. -/
structure Plan where
  flowName : Json
  steps : List Step
  actionOrder : List String
  warnings : List String

end MarketingFlow
