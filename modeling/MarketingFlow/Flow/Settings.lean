import MarketingFlow.Flow.Action

/-!
# Settings

Flow-wide settings, the re-entry policy, and the value of a setting for one message: its own value
comes first, then the flow's, then a fixed fallback.
-/

namespace MarketingFlow

/-- How often a profile may enter a flow, or a policy that is no object. -/
inductive Reentry where
  | policy (mode : String) (value unit : Json)
  | foreign (v : Json)

namespace Reentry

def ofMembers (ms : Members) : Reentry :=
  let mode := match ms.find? "mode" with
    | some v => v.text
    | none => ""
  policy mode (ms.value "value") (ms.value "unit")

def ofJson : Json → Reentry
  | .obj ms => ofMembers ms
  | .null => policy "" .null .null
  | v => foreign v

def toJson : Reentry → Json
  | policy mode value unit =>
    .obj (Members.compact [("mode", .str mode), ("value", value), ("unit", unit)])
  | foreign v => v

def mode : Reentry → String
  | policy mode _ _ => mode
  | foreign _ => ""

def value : Reentry → Json
  | policy _ value _ => value
  | foreign _ => .null

def unit : Reentry → Json
  | policy _ _ unit => unit
  | foreign _ => .null

def timeBased : String := "time-based"

def describe (r : Reentry) : String :=
  if r.mode = timeBased then r.mode ++ " (" ++ r.value.text ++ " " ++ r.unit.text ++ ")"
  else r.mode

end Reentry

structure Settings where
  smartSending : Json
  utmTracking : Json
  reentry : Option Reentry

namespace Settings

def unset : Settings := ⟨.null, .null, none⟩

def ofMembers (ms : Members) : Settings :=
  let reentry := ms.value "reentry"
  { smartSending := ms.value "smart_sending"
    utmTracking := ms.value "utm_tracking"
    reentry := if reentry.isNull then none else some (Reentry.ofJson reentry) }

def toJson (s : Settings) : Json :=
  .obj (Members.compact
    [("smart_sending", s.smartSending), ("utm_tracking", s.utmTracking),
      ("reentry", Json.ofOption (s.reentry.map Reentry.toJson))])

end Settings

/-- The first of the three that is not null; the fallback counts in any case. -/
def resolveSetting (own flowWide fallback : Json) : Json :=
  own.unlessNull (flowWide.unlessNull fallback)

structure MessageSettings where
  smartSending : Json
  utmTracking : Json

namespace MessageSettings

def resolve (smartSending utmTracking : Json) (settings : Option Settings) : MessageSettings :=
  let s := settings.getD Settings.unset
  { smartSending := resolveSetting smartSending s.smartSending (.bool true)
    utmTracking := resolveSetting utmTracking s.utmTracking (.bool false) }

/-- The settings of one message in a flow with the given settings. -/
def ofMessage (m : Message) (settings : Option Settings) : MessageSettings :=
  resolve m.smartSending m.utmTracking settings

/-- What a message without settings of its own gets. -/
def defaults (settings : Option Settings) : MessageSettings :=
  resolve .null .null settings

end MessageSettings

end MarketingFlow
