import MarketingFlow.Interaction.World

/-!
# Carrying out a plan

The steps of a plan are performed in order, each retried as the options say. A critical step that
fails ends the run. Any other failed step leaves a warning and a picture of the screen, and the
remaining steps of its action are skipped; the run goes on with the next action.
-/

namespace MarketingFlow

structure StepResult where
  step : Step
  success : Bool
  skipped : Bool
  error : Option String
  /-- The picture taken after a failure, null if there is none. -/
  screenshot : Json

structure Execution where
  flowName : Json
  results : List StepResult
  warnings : List String
  screenshots : List Json
  error : Option String
  actionsCreated : Nat

namespace Execution

def success (e : Execution) : Bool :=
  e.error.isNone

def stepsExecuted (e : Execution) : Nat :=
  e.results.countP fun r => !r.skipped

def stepsSucceeded (e : Execution) : Nat :=
  e.results.countP StepResult.success

end Execution

namespace Plan

/-- Two attempts with a second between them. -/
def standardRetry : RetryOptions Number :=
  { RetryOptions.standard with maxAttempts := 2 }

/-- What is known while a plan is carried out. -/
structure Progress where
  results : List StepResult
  warnings : List String
  screenshots : List Json
  /-- The actions that have a failed step. -/
  failed : List String
  error : Option String

namespace Progress

def start (warnings : List String) : Progress :=
  ⟨[], warnings, [], [], none⟩

def add (p : Progress) (r : StepResult) : Progress :=
  { p with results := p.results ++ [r] }

def skips (p : Progress) (s : Step) : Bool :=
  match s.owner? with
  | some id => p.failed.contains id
  | none => false

def skip (p : Progress) (s : Step) : Progress :=
  p.add ⟨s, false, true, none, .null⟩

def succeed (p : Progress) (s : Step) : Progress :=
  p.add ⟨s, true, false, none, .null⟩

def fail (p : Progress) (s : Step) (f : Failure) (shot : Json) : Progress :=
  let p := p.add ⟨s, false, false, some f.message, shot⟩
  { p with screenshots := if shot.given then p.screenshots ++ [shot] else p.screenshots }

def problem (s : Step) (f : Failure) : String :=
  s.label ++ " failed: " ++ f.message

def abort (p : Progress) (s : Step) (f : Failure) : Progress :=
  { p with error := some (problem s f) }

/-- Goes on after a failed step, without the rest of its action. -/
def goOn (p : Progress) (s : Step) (f : Failure) : Progress :=
  { p with
    failed := p.failed ++ s.owner?.toList
    warnings := p.warnings ++ [problem s f] }

end Progress

variable {σ : Type}

def performStep (s : Step) : Task σ Unit := do
  Task.ofExcept (← Task.ask (.perform s))

def takeScreenshot (name : String) : Task σ Json := do
  Task.ofExcept (← Task.ask (.screenshot name))

/-- A picture of the screen after a failed step; that it cannot be taken is no failure. -/
def capture (s : Step) : Task σ Json := do
  let name := "step-" ++ toString s.index ++ "-" ++ s.operation.name
  match ← (takeScreenshot name).result with
  | .ok shot => return shot
  | .error f =>
    Task.log .warning ("Screenshot after " ++ s.label ++ " failed: " ++ f.message)
    return .null

def runSteps (retry : RetryOptions Number) : List Step → Progress → Task σ Progress
  | [], p => return p
  | s :: rest, p => do
    if p.skips s then
      runSteps retry rest (p.skip s)
    else
      match ← ((performStep s).retry s.label retry).result with
      | .ok () => runSteps retry rest (p.succeed s)
      | .error f =>
        let shot ← capture s
        let p := p.fail s f shot
        if s.critical then
          Task.log .error
            ("Critical step failed, aborting: " ++ Progress.problem s f)
          return p.abort s f
        else
          Task.log .warning (s.label ++ " failed, continuing: " ++ f.message)
          runSteps retry rest (p.goOn s f)

/-- The actions that have steps, of which some were reached and none failed. -/
def created (plan : Plan) (p : Progress) : List String :=
  let planned := plan.steps.filterMap Step.owner?
  let reached := p.results.filterMap fun r => r.step.owner?
  plan.actionOrder.filter fun id =>
    planned.contains id && reached.contains id && !p.failed.contains id

def execute (plan : Plan) (retry : RetryOptions Number) : Task σ Execution := do
  let p ← runSteps retry plan.steps (Progress.start plan.warnings)
  return {
    flowName := plan.flowName
    results := p.results
    warnings := p.warnings
    screenshots := p.screenshots
    error := p.error
    actionsCreated := (plan.created p).length }

/-- The plan of a flow; the journal hears of it. -/
def announce (plan : Plan) : Task σ Unit :=
  Task.log .info ("Compiled flow " ++ plan.flowName.literal ++ " into " ++
    toString plan.steps.length ++ " UI steps")

end Plan

end MarketingFlow
