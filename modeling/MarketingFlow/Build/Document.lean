import MarketingFlow.Build.Result
import MarketingFlow.Plan.Execution
import MarketingFlow.Service.Verification

/-!
# Results as documents

Plans, requests and results as JSON, for programs that read them. Tables whose order matters are
written as arrays of pairs.
-/

namespace MarketingFlow

namespace Json

def count (n : Nat) : Json :=
  .int n

def optional (s : Option String) : Json :=
  ofOption (s.map .str)

def pairs (ms : Members) : Json :=
  .arr (ms.map fun m => .arr [.str m.1, m.2])

end Json

open Json

def Step.toJson (s : Step) : Json :=
  .obj [("step_index", .int s.index), ("operation", .str s.operation.name),
    ("action_id", optional s.actionId), ("params", .obj s.params), ("critical", .bool s.critical),
    ("label", .str s.label)]

def Plan.toJson (p : Plan) : Json :=
  .obj [("flow_name", p.flowName), ("steps", .arr (p.steps.map Step.toJson)),
    ("step_count", count p.steps.length), ("action_order", strings p.actionOrder),
    ("warnings", strings p.warnings)]

def StepResult.toJson (r : StepResult) : Json :=
  .obj [("step_index", .int r.step.index), ("success", .bool r.success),
    ("operation", .str r.step.operation.name), ("action_id", optional r.step.actionId),
    ("error", optional r.error), ("skipped", .bool r.skipped), ("screenshot", r.screenshot)]

def Execution.toJson (e : Execution) : Json :=
  .obj [("flow_name", e.flowName), ("success", .bool e.success),
    ("steps_executed", count e.stepsExecuted), ("steps_succeeded", count e.stepsSucceeded),
    ("actions_created", count e.actionsCreated),
    ("step_results", .arr (e.results.map StepResult.toJson)), ("warnings", strings e.warnings),
    ("screenshots", .arr e.screenshots), ("error", optional e.error)]

def Payload.Creation.toJson (c : Payload.Creation) : Json :=
  .obj [("payload", c.payload), ("action_order", strings c.actionOrder),
    ("warnings", strings c.warnings)]

def BuildResult.toJson (r : BuildResult) : Json :=
  .obj [("success", .bool r.success), ("mode", .str r.mode.name), ("flow_name", r.flowName),
    ("flow_id", r.flowId), ("flow_url", optional r.flowUrl),
    ("actions_created", count r.actionsCreated), ("errors", strings r.errors),
    ("warnings", strings r.warnings), ("screenshots", .arr r.screenshots),
    ("settings_applied", pairs (r.settingsApplied.map fun s => (s.1, .str s.2))),
    ("templates_applied", count r.templatesApplied),
    ("images_uploaded", count r.imagesUploaded), ("template_ids", pairs r.templateIds)]

def Verification.toJson (v : Verification) : Json :=
  .obj [("success", .bool v.success), ("flow_id", v.flowId), ("flow_name", v.flowName),
    ("expected_actions", count v.expectedActions), ("actual_actions", count v.actualActions),
    ("mismatches", strings v.mismatches)]

def Connection.toJson (c : Connection) : Json :=
  .obj [("api_key", c.apiKey), ("base_url", c.baseUrl), ("revision", c.revision),
    ("timeout", c.timeout)]

namespace Request

def partJson (p : FormPart) : Json :=
  .obj [("name", .str p.name), ("filename", optional p.fileName),
    ("content", .str (Text.Utf8.textOf p.content))]

/-- A request without its body is written without a member for it. -/
def toJson (r : Request) : Json :=
  let body : Members := match r.body with
    | .empty => []
    | .json v => [("json", v)]
    | .form parts => [("parts", .arr (parts.map partJson))]
  .obj ([("method", .str r.method), ("host", .str r.host), ("path", .str r.url.route),
    ("params", pairs (r.url.pairs.map fun q => (q.1, .str q.2))),
    ("revision", .str r.revision), ("auth", .str r.authorization)] ++ body)

end Request

end MarketingFlow
