import MarketingFlow.Flow.Filter

/-!
# Actions

The nodes of a flow. An action has an id, and what it does decides which links leave it. Links name
their targets by id, so branches can meet again. Values are kept as the document has them; a missing
value is null.
-/

namespace MarketingFlow

/-- What emails and text messages share. -/
structure Message where
  name : Json
  smartSending : Json
  utmTracking : Json
  next : Json

structure Email where
  message : Message
  subject : Json
  preview : Json
  content : Json

structure TextMessage where
  message : Message
  body : Json

structure Delay where
  value : Json
  unit : Json
  next : Json

structure Split where
  condition : Json
  label : Json
  config : Json
  ifTrue : Json
  ifFalse : Json

structure Variants where
  labelA : Json
  labelB : Json
  percentage : Json
  nextA : Json
  nextB : Json

/-- What an action does. An unknown type keeps its name, an entry that is no object its value. -/
inductive Work where
  | delay (d : Delay)
  | email (e : Email)
  | sms (t : TextMessage)
  | split (s : Split)
  | variants (v : Variants)
  | unknown (type : String)
  | foreign (v : Json)

structure Action where
  id : String
  work : Work

namespace Work

def typeName : Work → String
  | delay _ => "time-delay"
  | email _ => "send-email"
  | sms _ => "send-sms"
  | split _ => "conditional-split"
  | variants _ => "ab-split"
  | unknown type => type
  | foreign _ => ""

/-- The links that leave the action, in the order in which they are followed. -/
def links : Work → List (String × Json)
  | delay d => [("next", d.next)]
  | email e => [("next", e.message.next)]
  | sms t => [("next", t.message.next)]
  | split s => [("next_if_true", s.ifTrue), ("next_if_false", s.ifFalse)]
  | variants v => [("next_variant_a", v.nextA), ("next_variant_b", v.nextB)]
  | unknown _ => []
  | foreign _ => []

def message? : Work → Option Message
  | email e => some e.message
  | sms t => some t.message
  | _ => none

def channel? : Work → Option String
  | email _ => some "email"
  | sms _ => some "sms"
  | _ => none

def isForeign : Work → Bool
  | foreign _ => true
  | _ => false

/-- The type is one of the five that a flow may hold. -/
def isKnown : Work → Bool
  | unknown _ => false
  | foreign _ => false
  | _ => true

end Work

namespace Message

def ofMembers (ms : Members) : Message :=
  { name := (ms.value "name").orElse (.str "")
    smartSending := ms.value "smart_sending"
    utmTracking := ms.value "utm_tracking"
    next := ms.value "next" }

def head (m : Message) : Members :=
  [("name", m.name), ("smart_sending", m.smartSending), ("utm_tracking", m.utmTracking)]

end Message

namespace Action

def typeName (a : Action) : String :=
  a.work.typeName

def links (a : Action) : List (String × Json) :=
  a.work.links

/-- The targets of the links that are given. -/
def nextIds (a : Action) : List Json :=
  (a.links.map Prod.snd).filter Json.given

/-- The name an operator knows the action by: its own, or else its id. -/
def label (a : Action) : Json :=
  match a.work with
  | .email e => e.message.name.orElse (.str a.id)
  | .sms t => t.message.name.orElse (.str a.id)
  | .split s => s.label.orElse (.str a.id)
  | _ => .str a.id

/-- The work that an object of the given type describes. -/
def workOfMembers (type : String) (ms : Members) : Work :=
  match type with
  | "time-delay" =>
    .delay
      { value := (ms.find? "delay_value").getD (.int 0)
        unit := (ms.find? "delay_unit").getD (.str "days")
        next := ms.value "next" }
  | "send-email" =>
    .email
      { message := Message.ofMembers ms
        subject := ms.value "subject_line"
        preview := ms.value "preview_text"
        content := ms.value "content" }
  | "send-sms" =>
    .sms { message := Message.ofMembers ms, body := ms.value "body" }
  | "conditional-split" =>
    .split
      { condition := (ms.value "condition_type").orElse (.str "")
        label := (ms.value "condition_label").orElse (.str "")
        config := ms.value "condition_config"
        ifTrue := ms.value "next_if_true"
        ifFalse := ms.value "next_if_false" }
  | "ab-split" =>
    .variants
      { labelA := ms.value "variant_a_label"
        labelB := ms.value "variant_b_label"
        percentage := ms.value "split_percentage"
        nextA := ms.value "next_variant_a"
        nextB := ms.value "next_variant_b" }
  | type => .unknown type

def ofMembers (ms : Members) : Action :=
  ⟨((ms.value "id").orElse (.str "")).text, workOfMembers ms.typeText ms⟩

/-- A missing entry reads as an action without id and type. -/
def ofJson : Json → Action
  | .obj ms => ofMembers ms
  | .null => ⟨"", .unknown ""⟩
  | v => ⟨"", .foreign v⟩

def toJson (a : Action) : Json :=
  let head : Members := [("id", .str a.id), ("type", .str a.typeName)]
  match a.work with
  | .delay d =>
    .obj (head ++ Members.compact
      [("delay_value", d.value), ("delay_unit", d.unit), ("next", d.next)])
  | .email e =>
    .obj (head ++ Members.compact (e.message.head ++
      [("subject_line", e.subject), ("preview_text", e.preview), ("content", e.content),
        ("next", e.message.next)]))
  | .sms t =>
    .obj (head ++ Members.compact (t.message.head ++
      [("body", t.body), ("next", t.message.next)]))
  | .split s =>
    .obj (head ++ Members.compact
      [("condition_type", s.condition), ("condition_label", s.label),
        ("condition_config", s.config), ("next_if_true", s.ifTrue), ("next_if_false", s.ifFalse)])
  | .variants v =>
    .obj (head ++ Members.compact
      [("variant_a_label", v.labelA), ("variant_b_label", v.labelB),
        ("split_percentage", v.percentage), ("next_variant_a", v.nextA),
        ("next_variant_b", v.nextB)])
  | .unknown _ => .obj head
  | .foreign v => v

end Action

end MarketingFlow
