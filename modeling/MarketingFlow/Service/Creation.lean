import MarketingFlow.Build.Result
import MarketingFlow.Service.ContentPass

/-!
# Creating a flow through the service

The stages of a build through the service: check that it can be reached, create a template for each
email with content, compile the payload, create the flow, and see to the emails that still lack
their content. A foreseen failure before the flow exists ends the build; after that it becomes a
warning, because the flow is there.
-/

namespace MarketingFlow

namespace Creator

variable (k : Creator)

def refuse (r : BuildResult) (message : String) (f : Failure) : BuildResult :=
  { r with errors := r.errors ++ [message] ++ f.hints }

def create (creation : Payload.Creation) : Work Json := do
  let answer ← call (k.client.createFlow creation.payload) "Create flow via API" k.maxRetries
  Task.ofExcept (createdId answer)

/-- Sees to the emails without a template and completes the result. -/
def complete (f : Flow) (r : BuildResult) (prepared : Precreation) (flowId : Json) :
    Work BuildResult := do
  let url := if flowId.given then some (flowUrl flowId) else none
  let pending := prepared.pages.filter fun page => !Members.has prepared.templateIds page.1
  let (applied, warnings) ← if flowId.given && !pending.isEmpty then pass url pending
    else pure (0, [])
  let templates := prepared.applied + applied
  let images := (← get).hosted.length
  let settings := settingsSummary f
  let settings := if templates = 0 then settings else
    recordSetting settings "Email Content" (toString templates ++ " template(s) created")
  let settings := if images = 0 then settings else
    recordSetting settings "Images Uploaded" (toString images ++ " image(s)")
  Task.log .info ("Flow created: " ++ flowId.text ++ " (" ++ url.getD "None" ++ ")")
  return { r with
    success := true
    flowId := flowId
    flowUrl := url
    actionsCreated := f.actions.length
    warnings := r.warnings ++ warnings
    settingsApplied := settings
    templatesApplied := templates
    imagesUploaded := images
    templateIds := prepared.templateIds }
where
  /-- The content pass; that it fails is a warning. -/
  pass (url : Option String) (pending : Members) : Work (Nat × List String) := do
    match ← (k.applyContent flowId f pending).result with
    | .ok outcome => return outcome
    | .error e =>
      if !e.foreseen then throw e
      Task.log .warning ("Email content pass failed for flow " ++ flowId.text ++ ": " ++ e.message)
      return (0, ["Email content could not be applied: " ++ e.message ++
        ". Apply templates manually at " ++ url.getD "None"])

/-- The result of a build that a failure ended; accidents are raised. -/
def fail (r : BuildResult) (e : Failure) : Work BuildResult := do
  if !e.foreseen then throw e
  Task.log .error ("Flow creation failed: " ++ e.message)
  return refuse r ("API flow creation failed: " ++ e.message) e

def build (f : Flow) : Work BuildResult := do
  let r := BuildResult.start .api f
  Task.log .info ("Building flow \"" ++ f.name.text ++ "\" via API")
  match Payload.checkCapabilities f with
  | .error e => fail r e
  | .ok () =>
    match ← (call k.client.ping "Check API connection" 3).result with
    | .error e =>
      if e.remoteKind?.isNone then fail r e
      else
        Task.log .error ("Klaviyo API connection failed: " ++ e.message)
        return refuse r "Failed to connect to Klaviyo API. Check your API key." e
    | .ok () =>
      match ← (k.precreate f).result with
      | .error e => fail r e
      | .ok prepared =>
        let r := { r with
          warnings := prepared.warnings
          templatesApplied := prepared.applied }
        match ← (Payload.ofFlow f (some k.names) k.sender prepared.templateIds).result with
        | .error e => fail r e
        | .ok creation =>
          let r := { r with warnings := r.warnings ++ creation.warnings }
          match ← (k.create creation).result with
          | .error e => fail r e
          | .ok flowId => complete k f r prepared flowId

end Creator

end MarketingFlow
