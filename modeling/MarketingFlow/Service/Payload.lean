import MarketingFlow.Flow.Traversal
import MarketingFlow.Interaction.World
import MarketingFlow.Service.Names

/-!
# Payloads

The request body that creates a whole flow at once: the trigger with its id, and every action in
the order of traversal under its own id as a temporary one. A/B splits and unknown types cannot be
created this way. Conditions that the service cannot express become a placeholder, and each of them
leaves a warning.
-/

namespace MarketingFlow

/-- The filter for profiles that may be contacted through a channel. -/
def consentFilter (channel : String) : Json :=
  .obj [("condition_groups", .arr [.obj [("conditions", .arr [.obj
    [("type", .str "profile-marketing-consent"),
      ("consent", .obj [("channel", .str channel), ("can_receive_marketing", .bool true),
        ("consent_status", .obj [("subscription", .str "subscribed"), ("filters", .null)])])]])]])]

/-- How a split's condition comes out: as the author meant it, or as a placeholder. -/
inductive Fidelity where
  | exact
  /-- The builder has an entry for it, to be chosen by hand. -/
  | byHand (entry : String)
  | inexpressible (condition : Json)

/-- The entries of the builder for what a profile did with an email. -/
def engagementEntries : List (String × String) :=
  [("has-opened-email", "Opened Email"), ("has-clicked-email", "Clicked Email"),
    ("has-received-email", "Received Email")]

/-- The profile filter of a split and how well it fits. -/
def Split.profileFilter (s : Split) : Except Failure (Json × Fidelity) := do
  match ← s.condition.asKey with
  | .str "profile-marketing-consent" =>
    let channel := (← s.config.orEmpty.get "channel").orElse (.str "email")
    return (consentFilter channel.text, .exact)
  | .str "custom" =>
    match ← s.config.orEmpty.get "profile_filter" with
    | .obj filter => return (.obj filter, .exact)
    | _ => return (.obj [("condition_groups", .arr [])], .exact)
  | .str kind =>
    match engagementEntries.lookup kind with
    | some entry => return (consentFilter "email", .byHand entry)
    | none => return (consentFilter "email", .inexpressible (.str kind))
  | kind => return (consentFilter "email", .inexpressible kind)

namespace Fidelity

/-- What the author is told about a split with this outcome. -/
def warning? (label id : String) : Fidelity → Option String
  | exact => none
  | byHand entry =>
    some ("Conditional split \"" ++ label ++ "\" (" ++ id ++
      ") uses a placeholder condition. After creation, change it in the UI to " ++
      "\"What someone has done\" -> \"" ++ entry ++ "\".")
  | inexpressible condition =>
    some ("Conditional split \"" ++ label ++ "\" (" ++ id ++ ") has condition type \"" ++
      condition.text ++
      "\" which cannot be expressed via the API; a placeholder condition was used.")

/-- What the journal says about it. -/
def journal? (label id : String) : Fidelity → Option String
  | inexpressible condition =>
    some ("Unknown condition type: " ++ condition.text ++ ". Using consent placeholder.")
  | f => f.warning? label id

end Fidelity

def weekdays : List String :=
  ["monday", "tuesday", "wednesday", "thursday", "friday", "saturday", "sunday"]

structure Sender where
  email : Json
  label : Json

/-- The sender with the defaults of an account that names none. -/
def Sender.ofOptional (email label : Json) : Sender :=
  { email := email.orElse (.str "noreply@example.com")
    label := label.orElse (.str "Store") }

/-- Template ids by the ids of the email actions they were made for, in the order of creation. -/
abbrev TemplateIds := Members

namespace Payload

def unsupported (a : Action) : Failure :=
  let message := match a.work with
    | .variants _ =>
      "Action \"" ++ a.id ++ "\" is an A/B split, which the Flows API cannot create. " ++
        "Use browser or hybrid mode."
    | _ => "Action \"" ++ a.id ++ "\" has unsupported type \"" ++ a.typeName ++ "\"."
  Failure.capability message (some a.id) "api"

def isSupported : Work → Bool
  | .delay _ => true
  | .email _ => true
  | .sms _ => true
  | .split _ => true
  | _ => false

/-- Refuses a flow for its first action that cannot be created. -/
def checkCapabilities (f : Flow) : Except Failure Unit :=
  match f.actions.find? fun a => !isSupported a.work with
  | some a => .error (unsupported a)
  | none => .ok ()

def delayData (d : Delay) : Json :=
  .obj [("unit", d.unit), ("value", d.value), ("secondary_value", .int 0),
    ("timezone", .str "profile"), ("delay_until_time", .null),
    ("delay_until_weekdays",
      if d.unit.same (.str "days") then Json.strings weekdays else .null)]

def emailData (e : Email) (settings : Option Settings) (sender : Sender) (template : Json) : Json :=
  let s := MessageSettings.ofMessage e.message settings
  .obj [("message", .obj (
      [("name", e.message.name),
        ("subject_line", e.subject.orElse (.str (e.message.name.text ++ " Subject"))),
        ("preview_text", e.preview.orElse (.str "")), ("from_email", sender.email),
        ("from_label", sender.label), ("reply_to_email", sender.email), ("cc_email", .null),
        ("bcc_email", .null), ("smart_sending_enabled", s.smartSending),
        ("transactional", .bool false), ("add_tracking_params", s.utmTracking),
        ("custom_tracking_params", .null), ("additional_filters", .null)] ++
      (if template.given then [("template_id", template)] else []))),
    ("status", .str "draft")]

def smsData (t : TextMessage) (settings : Option Settings) : Json :=
  let s := MessageSettings.ofMessage t.message settings
  .obj [("message", .obj [("name", t.message.name), ("body", t.body.orElse (.str "")),
      ("smart_sending_enabled", s.smartSending), ("transactional", .bool false),
      ("add_tracking_params", s.utmTracking), ("respecting_sms_quiet_hours", .bool true),
      ("custom_tracking_params", .null), ("additional_filters", .null)]),
    ("status", .str "draft")]

/-- The data of an action and how well it fits. -/
def actionData (a : Action) (settings : Option Settings) (sender : Sender)
    (templates : TemplateIds) : Except Failure (Json × Fidelity) := do
  match a.work with
  | .delay d => return (delayData d, .exact)
  | .email e => return (emailData e settings sender (templates.value a.id), .exact)
  | .sms t => return (smsData t settings, .exact)
  | .split s =>
    let (filter, fidelity) ← s.profileFilter
    return (.obj [("profile_filter", filter)], fidelity)
  | _ => throw (unsupported a)

structure Compiled where
  action : Action
  data : Json
  fidelity : Fidelity

namespace Compiled

def toJson (c : Compiled) : Json :=
  .obj [("temporary_id", .str c.action.id), ("type", .str c.action.typeName),
    ("links", .obj c.action.links), ("data", c.data)]

def warning? (c : Compiled) : Option String :=
  c.fidelity.warning? c.action.label.text c.action.id

def journal? (c : Compiled) : Option String :=
  c.fidelity.journal? c.action.label.text c.action.id

end Compiled

def compileAction (settings : Option Settings) (sender : Sender) (templates : TemplateIds)
    (a : Action) : Except Failure Compiled := do
  let (data, fidelity) ← actionData a settings sender templates
  return ⟨a, data, fidelity⟩

end Payload

namespace Payload

variable {σ : Type}

/-- The texts joined by commas; anything else cannot be joined. -/
def joinNames (names : List Json) : Except Failure String := do
  let texts ← names.zipIdx.mapM fun (name, i) => match name with
    | .str s => (pure s : Except Failure String)
    | v => throw (Failure.misuse (.badOperand ("sequence item " ++ toString i ++
        ": expected str instance, " ++ v.typeName ++ " found")))
  return ", ".intercalate texts

/-- The id of a name in one of the account's directories. -/
def lookupId (kind : String) (name : Json)
    (service : Option ((Json → Task σ Json) × Task σ (List Json))) : Task σ Json := do
  let title := Text.capitalize kind ++ " \"" ++ name.text ++ "\""
  match service with
  | none =>
    throw (Failure.resolution
      (title ++ " has no id and no directory is available to resolve it.") name [])
  | some (find, names) =>
    let found ← find name
    if found.given then return found
    let available ← names
    let known ← Task.ofExcept (joinNames (available.take 20))
    throw (Failure.resolution
      (title ++ " not found in account. Available " ++ kind ++ "s: " ++ known) name available)

/-- The trigger as the payload has it. A name is looked up only where there is no id. -/
def resolveTrigger (service : Option (NameService σ)) : Option Trigger → Task σ Json
  | some (.metric name id filter) => do
    let id ← if id.given then pure id else
      lookupId "metric" name (service.map fun s => (s.findMetric, s.metricNames))
    return .obj ([("type", .str "metric"), ("id", id)] ++
      (match filter with
        | some filter => [("trigger_filter", filter.toJson)]
        | none => []))
  | some (.list name id) => do
    let id ← if id.given then pure id else
      lookupId "list" name (service.map fun s => (s.findList, s.listNames))
    return .obj [("type", .str "list"), ("id", id)]
  | some (.date property _) =>
    return .obj [("type", .str "date-property"), ("id", property)]
  | t =>
    throw (Failure.capability
      ("Unsupported trigger type: " ++ (Json.ofOption (t.map fun t => .str t.typeName)).text)
      none "api")

/-- A create request with the order of its actions and the warnings that go with it. -/
structure Creation where
  payload : Json
  actionOrder : List String
  warnings : List String

def document (f : Flow) (trigger : Json) (actions : List Compiled) : Json :=
  let filter := match f.profileFilter with
    | some filter => filter.toJson.orElse .null
    | none => .null
  .obj [("data", .obj [("type", .str "flow"),
    ("attributes", .obj [("name", f.name),
      ("definition", .obj [("triggers", .arr [trigger]), ("profile_filter", filter),
        ("actions", .arr (actions.map Compiled.toJson)), ("entry_action_id", f.entry)])])])]

/-- Compiles the actions in order; the journal hears of every placeholder. -/
def compileActions (settings : Option Settings) (sender : Sender) (templates : TemplateIds) :
    List Action → Task σ (List Compiled)
  | [] => return []
  | a :: rest => do
    let c ← Task.ofExcept (compileAction settings sender templates a)
    match c.journal? with
    | some text => Task.log .warning text
    | none => pure ()
    return c :: (← compileActions settings sender templates rest)

def ofFlow (f : Flow) (service : Option (NameService σ)) (sender : Sender)
    (templates : TemplateIds) : Task σ Creation := do
  let ordered ← Task.ofExcept f.traverse
  let actions ← compileActions f.settings sender templates ordered
  let trigger ← resolveTrigger service f.trigger
  let warnings := actions.filterMap Compiled.warning?
  Task.log .info ("Compiled flow " ++ f.name.literal ++ ": " ++ toString actions.length ++
    " actions, " ++ toString warnings.length ++ " warnings")
  return {
    payload := document f trigger actions
    actionOrder := ordered.map Action.id
    warnings := warnings }

end Payload

end MarketingFlow
