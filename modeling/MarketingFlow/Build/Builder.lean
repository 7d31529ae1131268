import MarketingFlow.Configuration.Basic
import MarketingFlow.Flow.Validation
import MarketingFlow.Plan.Execution
import MarketingFlow.Plan.OfFlow
import MarketingFlow.Service.Creation

/-!
# Building

A flow is validated first; an invalid one is refused before anything is sent. The configured mode
then picks the backend. In hybrid mode a flow with an A/B split goes to the browser at once, any
other goes through the service first and to the browser if that fails. Re-entry cannot be set
through the service, so a created flow is opened in a browser for it where a session is at hand.
-/

namespace MarketingFlow

/-- A configuration, and a client to use in place of a new one. -/
structure Builder where
  config : Config
  client : Option Client

namespace Builder

variable (b : Builder)

abbrev Work := Task Unit

/-- What a new client is made from. -/
def connection : Except Failure Connection := do
  return {
    apiKey := b.config.apiKey
    revision := b.config.apiRevision
    baseUrl := b.config.baseUrl
    timeout := .float (← b.config.timeoutSeconds) }

def connect : Work Client := do
  let c ← Task.ofExcept b.connection
  Task.ask (.connect c)
  Task.ofExcept (Client.ofConnection c)

def creator (client : Client) : Except Failure Creator := do
  return {
    client := client
    sender := .ofOptional b.config.email b.config.fromLabel
    maxRetries := ← b.config.attempts
    pacing := ← Config.number b.config.pacingDelay
    settling := .float 5 }

def stepRetry : Except Failure (RetryOptions Number) := do
  return { RetryOptions.standard with maxAttempts := max 1 (min (← b.config.attempts) 2) }

def buildByService (f : Flow) : Work BuildResult := do
  let client ← match b.client with
    | some c => pure c
    | none => b.connect
  let k ← Task.ofExcept (b.creator client)
  (k.build f).within (fun _ => .empty) fun s _ => s

/-- Runs a task in a session of the visual builder. The session is closed in any case; after a
failure nothing that happens at its end matters any more. -/
def inSession {α : Type} (t : Work α) : Work α := do
  Task.ofExcept (← Task.ask .openSession)
  match ← t.result with
  | .ok a =>
    Task.ofExcept (← Task.ask (.closeSession true))
    return a
  | .error f =>
    let _ ← Task.ask (.closeSession false)
    throw f

/-- What a session left behind. -/
structure Session where
  execution : Execution
  final : Json
  flowId : Json

def carryOut (plan : Plan) : Work Session :=
  inSession do
    let retry ← Task.ofExcept b.stepRetry
    let execution ← plan.execute retry
    let final ← Plan.takeScreenshot "flow-complete"
    let flowId ← Task.ask .currentFlow
    return ⟨execution, final, flowId⟩

def Session.result (s : Session) (f : Flow) : BuildResult :=
  let e := s.execution
  { BuildResult.start .browser f with
    success := e.success && (0 < e.actionsCreated || f.actions.isEmpty)
    flowId := s.flowId
    flowUrl := if s.flowId.given then some (MarketingFlow.flowUrl s.flowId) else none
    actionsCreated := e.actionsCreated
    errors := e.error.toList.map ("Browser automation failed: " ++ ·)
    warnings := e.warnings
    screenshots := e.screenshots ++ (if s.final.given then [s.final] else []) }

def buildInBrowser (f : Flow) : Work BuildResult := do
  let plan ← Task.ofExcept (Plan.ofFlow f)
  plan.announce
  Task.log .info ("Building flow \"" ++ f.name.text ++ "\" via browser automation (" ++
    toString plan.steps.length ++ " steps)")
  let session ← b.carryOut plan
  Task.log .info ("Build complete: " ++ toString session.execution.actionsCreated ++ "/" ++
    toString plan.actionOrder.length ++ " actions.")
  return session.result f

def reentryPlan (f : Flow) (r : Reentry) : Plan :=
  { flowName := f.name
    steps := [⟨0, .setReentry, none, Plan.reentryParams r, false⟩]
    actionOrder := []
    warnings := [] }

def setReentry (f : Flow) (r : Reentry) (flowId : Json) (retry : RetryOptions Number) :
    Work Execution :=
  inSession do
    let opening : Work Unit := do Task.ofExcept (← Task.ask (.openFlow flowId))
    opening.retry ("Open flow " ++ flowId.text) retry
    (reentryPlan f r).execute retry

def addressOf (r : BuildResult) : String :=
  r.flowUrl.getD "None"

def byHand (r : BuildResult) : String :=
  "Set re-entry manually: " ++ addressOf r

/-- Sees to the re-entry policy of a flow that was created through the service. Whatever fails here
becomes a warning: the flow exists. -/
def configureReentry (f : Flow) (r : BuildResult) : Work BuildResult := do
  match f.reentry with
  | none => return r
  | some policy =>
    if !b.config.storageState.given then
      return { r with warnings := r.warnings ++
        ["Re-entry (" ++ policy.describe ++ ") needs browser automation but no STORAGE_STATE " ++
          "is configured. Set it manually: " ++ addressOf r] }
    else
      let retry ← Task.ofExcept b.stepRetry
      match ← (setReentry f policy r.flowId retry).result with
      | .error e =>
        Task.log .warning ("Re-entry follow-up failed for flow " ++ r.flowId.text ++ ": " ++
          e.message)
        return { r with warnings := r.warnings ++
          ["Re-entry (" ++ policy.describe ++ ") could not be applied: " ++ e.message, byHand r] }
      | .ok e =>
        let r := { r with screenshots := r.screenshots ++ e.screenshots }
        if e.warnings.isEmpty then
          let settings :=
            recordSetting r.settingsApplied "Re-entry" (policy.describe ++ " (browser)")
          return { r with settingsApplied := settings }
        else return { r with warnings := r.warnings ++ e.warnings ++ [byHand r] }

/-- A created flow with its re-entry policy, any other result as it is. -/
def followUp (f : Flow) (r : BuildResult) : Work BuildResult :=
  if r.success && r.flowId.given then b.configureReentry f r else pure r

def fallbackWarning : String := "Built via browser automation (API fallback)."

def buildHybrid (f : Flow) : Work BuildResult := do
  if f.hasActionType "ab-split" then
    Task.log .info "Flow contains an A/B split; using browser automation."
    let r ← b.buildInBrowser f
    return { r with mode := .hybrid }
  else
    let tried ← b.buildByService f
    if tried.success then
      b.followUp f { tried with mode := .hybrid }
    else
      Task.log .warning "API build failed; falling back to browser automation."
      let r ← b.buildInBrowser f
      return { r with
        mode := .hybrid
        warnings := r.warnings ++ [fallbackWarning] ++ tried.errors.map ("API attempt: " ++ ·) }

def buildInMode (f : Flow) : Work BuildResult := do
  match b.config.mode with
  | .api => b.followUp f (← b.buildByService f)
  | .browser => b.buildInBrowser f
  | .hybrid => b.buildHybrid f

/-- Builds a flow. The remarks of the validation come first among the warnings. -/
def build (f : Flow) : Work BuildResult := do
  let verdict ← Task.ofExcept f.validate
  if !verdict.valid then
    throw { cause := .structural verdict.errors }
  verdict.warnings.forM (Task.log .warning ·)
  let r ← b.buildInMode f
  return { r with warnings := verdict.warnings ++ r.warnings }

end Builder

end MarketingFlow
