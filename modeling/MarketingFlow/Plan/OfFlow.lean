import MarketingFlow.Flow.Traversal
import MarketingFlow.Plan.Step

/-!
# The plan of a flow

Every kind of action has a place in the visual builder. The plan creates the flow, selects its
trigger, then adds, configures and closes one action after the other in the order of traversal, and
sets the re-entry policy last. Conditions of splits cannot be filled in by machine; each leaves a
warning.
-/

namespace MarketingFlow

/-- The entry of the builder's sidebar for a type of action. -/
def sidebarLabel : Work → String
  | .delay _ => "Time delay"
  | .email _ => "Email"
  | .sms _ => "Text message"
  | .split _ => "Conditional split"
  | .variants _ => "A/B test"
  | .unknown type => type
  | .foreign _ => ""

/-- Metrics whose entry in the trigger picker reads differently from their name. -/
def pickerLabels : List (String × String) :=
  [("Started Checkout", "Checkout started"), ("Checkout Started", "Checkout started"),
    ("Added to Cart", "Added to cart"), ("Placed Order", "Placed order"),
    ("Viewed Product", "Viewed product"), ("Added to List", "Added to list"),
    ("Added to Segment", "Added to segment"), ("Active on Site", "Active on Site")]

/-- The entry of a metric in the trigger picker. -/
def metricLabel (name : Json) : Except Failure Json := do
  match ← name.asKey with
  | .str s => return .str ((pickerLabels.lookup s).getD s)
  | v => return v

/-- The entry of a trigger in the trigger picker. -/
def Trigger.pickerLabel : Trigger → Except Failure Json
  | metric name _ _ => metricLabel name
  | list _ _ => .ok (.str "Added to list")
  | date _ _ => .ok (.str "Date property")
  | t => .ok t.displayName

namespace Plan

def orDefault (v : Json) (d : String) : Json :=
  v.orElse (.str d)

/-- The step that configures an action, as its operation and parameters. -/
def configuration (a : Action) (settings : Option Settings) : Operation × Members :=
  let message (channel : String) (m : Message) : Operation × Members :=
    let s := MessageSettings.ofMessage m settings
    (.configureMessage,
      [("channel", .str channel), ("name", m.name), ("smart_sending", s.smartSending),
        ("utm_tracking", s.utmTracking)])
  match a.work with
  | .delay d => (.configureDelay, [("value", d.value), ("unit", d.unit)])
  | .email e => message "email" e.message
  | .sms t => message "sms" t.message
  | .split s => (.configureSplit, [("label", a.label), ("condition_type", s.condition)])
  | .variants v =>
    (.configureVariants,
      [("variant_a_label", orDefault v.labelA "Variant A"),
        ("variant_b_label", orDefault v.labelB "Variant B"),
        ("split_percentage", v.percentage.unlessNull (.int 50))])
  | .unknown _ => (.dismissPanel, [])
  | .foreign _ => (.dismissPanel, [])

/-- What the author has to complete by hand after the action was added. -/
def manualWork (a : Action) : List String :=
  let unconfigured :=
    ["Action \"" ++ a.id ++ "\" has unknown type \"" ++ a.typeName ++ "\"; left unconfigured."]
  match a.work with
  | .split s =>
    ["Conditional split \"" ++ a.label.text ++ "\" (" ++ a.id ++
      ") was added without its condition. Set \"" ++ s.condition.text ++
      "\" manually in the flow builder."]
  | .unknown _ => unconfigured
  | .foreign _ => unconfigured
  | _ => []

/-- Operation, owner, parameters and criticality of a step that has no number yet. -/
structure Entry where
  operation : Operation
  actionId : Option String
  params : Members
  critical : Bool

def actionEntries (settings : Option Settings) (a : Action) : List Entry :=
  let (operation, params) := configuration a settings
  [⟨.addAction, some a.id, [("sidebar_label", .str (sidebarLabel a.work))], false⟩,
    ⟨operation, some a.id, params, false⟩,
    ⟨.dismissPanel, none, [], false⟩]

def reentryParams (r : Reentry) : Members :=
  [("mode", .str r.mode), ("value", r.value), ("unit", r.unit)]

def triggerParams (t : Option Trigger) : Except Failure Members := do
  match t with
  | none => return [("label", .str "")]
  | some t =>
    let label := ("label", ← t.pickerLabel)
    match t with
    | .list name _ => return [label, ("list_name", name)]
    | _ => return [label]

def numberSteps (entries : List Entry) : List Step :=
  entries.zipIdx.map fun (e, i) => ⟨i, e.operation, e.actionId, e.params, e.critical⟩

def ofFlow (f : Flow) : Except Failure Plan := do
  let trigger ← triggerParams f.trigger
  let ordered ← f.traverse
  let entries : List Entry :=
    [⟨.createFlow, none, [("name", f.name)], true⟩, ⟨.selectTrigger, none, trigger, true⟩] ++
    ordered.flatMap (actionEntries f.settings) ++
    (match f.reentry with
      | some r => [⟨.setReentry, none, reentryParams r, false⟩]
      | none => [])
  return {
    flowName := f.name
    steps := numberSteps entries
    actionOrder := ordered.map Action.id
    warnings := ordered.flatMap manualWork }

end Plan

end MarketingFlow
