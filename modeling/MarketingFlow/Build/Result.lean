import MarketingFlow.Build.Mode
import MarketingFlow.Service.Payload

/-!
# Results of builds

What a build reports: whether it succeeded, what it created, the settings it applied, and what the
author still has to see to. Each stage of a build adds to the result in its own place.
-/

namespace MarketingFlow

structure BuildResult where
  success : Bool
  mode : Mode
  flowName : Json
  flowId : Json
  flowUrl : Option String
  actionsCreated : Nat
  errors : List String
  warnings : List String
  screenshots : List Json
  settingsApplied : List (String × String)
  templatesApplied : Nat
  imagesUploaded : Nat
  templateIds : TemplateIds

def BuildResult.start (mode : Mode) (f : Flow) : BuildResult :=
  { success := false, mode := mode, flowName := f.name, flowId := .null, flowUrl := none
    actionsCreated := 0, errors := [], warnings := [], screenshots := [], settingsApplied := []
    templatesApplied := 0, imagesUploaded := 0, templateIds := [] }

def flowUrl (id : Json) : String :=
  "https://www.klaviyo.com/flow/" ++ id.text ++ "/edit"

/-- Records a setting in its place, or at the end if it is new. -/
def recordSetting (settings : List (String × String)) (key value : String) :
    List (String × String) :=
  match settings with
  | [] => [(key, value)]
  | (k, v) :: rest => if k = key then (k, value) :: rest else (k, v) :: recordSetting rest key value

def onOff (v : Json) : String :=
  if v.given then "ON" else "OFF"

/-- The settings that a build through the service applies, as a person reads them. -/
def settingsSummary (f : Flow) : List (String × String) :=
  let defaults := MessageSettings.defaults f.settings
  let overrides := f.actions.filter fun a =>
    match a.work.message? with
    | some m => !m.smartSending.isNull || !m.utmTracking.isNull
    | none => false
  [("Smart Sending", onOff defaults.smartSending), ("UTM Tracking", onOff defaults.utmTracking)] ++
  (if overrides.isEmpty then []
    else [("Per-action overrides", toString overrides.length ++ " action(s)")]) ++
  (if (f.trigger.bind Trigger.filter?).isSome then [("Trigger Filter", "Applied")] else []) ++
  (if f.profileFilter.isSome then [("Profile Filter", "Applied")] else []) ++
  (match f.reentry with
    | some r => [("Re-entry", r.describe)]
    | none => [])

/-- What an operator can do about a refusal. -/
def Failure.hints (f : Failure) : List String :=
  match f.remoteKind? with
  | some .auth =>
    ["Authentication failed. Verify your KLAVIYO_API_KEY is correct and has write permissions."]
  | some .validation => ["Validation error. The flow definition may have invalid fields."]
  | some .rateLimited => ["Rate limited. Wait a moment and try again."]
  | _ => []

end MarketingFlow
