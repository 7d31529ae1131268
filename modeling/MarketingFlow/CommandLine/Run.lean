import MarketingFlow.Build.Builder
import MarketingFlow.CommandLine.Arguments
import MarketingFlow.CommandLine.Line
import MarketingFlow.Configuration.Loading
import MarketingFlow.Service.Verification

/-!
# Commands

What the commands do and print, with the exit code at the end: zero if all went well, one if not,
two for wrong usage. A failure that a command does not foresee goes on to whoever runs it.
-/

namespace MarketingFlow.CommandLine

abbrev Work := Task Unit

abbrev ExitCode := Nat

/-- Prints a line, which has to be text. -/
def say (line : String) : Work Unit := do
  let line := Line.plain line
  Task.ofExcept (Failure.checkEncoding .utf8 line)
  Task.ask (.print .out line)

/-- Prints a line about something wrong. What is no text in it is spelled out. -/
def complain (line : String) : Work Unit :=
  Task.ask (.print .err (Text.Encoding.utf8.withEscapes (Line.plain line)))

def giveUp (message : String) : Work ExitCode := do
  complain ("Error: " ++ message)
  return 1

def codeOf (success : Bool) : ExitCode :=
  if success then 0 else 1

def readFlow (path : String) : Work (Except String Flow) := do
  let document : Work Json := do
    let cs ← Configuration.fileText path
    match Json.readChars cs with
    | .ok v => return v
    | .error e => throw { cause := e.cause (String.ofList cs) }
  match ← document.result with
  | .error f =>
    if f.cause.isUnfit || f.cause.isSystem then
      return .error ("Failed to read flow definition " ++ path ++ ": " ++ f.message)
    else throw f
  | .ok (.obj ms) => return .ok (← Task.ofExcept (Flow.ofMembers ms))
  | .ok _ => return .error ("Flow definition " ++ path ++ " must be a JSON object")

def optionalText (s : Option String) : Json :=
  Json.ofOption (s.map .str)

/-- The configuration with a key from the command line. -/
def configure (apiKey : Option String) : Work Config := do
  let c ← Configuration.load none [("api_key", optionalText apiKey)]
  Task.ask (.keepJournal c.logLevel.text)
  return c

/-- Runs a task on the service. Without a key there is no service; a foreseen failure is told under
the given title. -/
def withClient {α : Type} (c : Config) (title : String) (t : Client → Work α)
    (next : α → Work ExitCode) : Work ExitCode := do
  if !c.apiKey.given then
    giveUp "KLAVIYO_API_KEY is required. Set it in .env or pass --api-key."
  else
    let client ← Builder.connect ⟨c, none⟩
    match ← (t client).result with
    | .ok a => next a
    | .error f => if f.foreseen then giveUp (title ++ ": " ++ f.message) else throw f

def printResult (r : BuildResult) (seconds : Float) : Work Unit := do
  let outcome := if r.success then "succeeded" else "failed"
  say ("\nBuild " ++ outcome ++ " (" ++ r.mode.name ++ "): " ++ r.flowName.text)
  if r.flowId.given then
    say ("  Flow ID: " ++ r.flowId.text)
  r.flowUrl.toList.forM fun url => say ("  URL:     " ++ url)
  say ("  Actions: " ++ toString r.actionsCreated)
  say ("  Time:    " ++ Decimal.fixed 1 seconds ++ "s")
  r.settingsApplied.forM fun s => say ("  " ++ s.1 ++ ": " ++ s.2)
  r.warnings.forM fun warning => say ("  WARNING: " ++ warning)
  r.errors.forM fun e => complain ("  ERROR: " ++ e)
  r.screenshots.forM fun shot => say ("  Screenshot: " ++ shot.text)

def buildOverrides (a : BuildArguments) : Members :=
  [("mode", optionalText a.mode), ("api_key", optionalText a.apiKey),
    ("headless", Json.ofOption (a.headless.map .bool)),
    ("slow_mo", Json.ofOption (a.slowMo.map .int))]

/-- Builds a flow with a configuration in which nothing is missing. -/
def runBuild (c : Config) (f : Flow) : Work ExitCode := do
  let before ← Task.ask .clock
  match ← (Builder.build ⟨c, none⟩ f).result with
  | .error e => if e.foreseen then giveUp e.message else throw e
  | .ok r =>
    let after ← Task.ask .clock
    printResult r (Float.sub after before)
    return codeOf r.success

def build (a : BuildArguments) : Work ExitCode := do
  let c ← Configuration.load none (buildOverrides a)
  Task.ask (.keepJournal (if a.verbose then "debug" else c.logLevel.text))
  match ← readFlow a.flowPath with
  | .error message => giveUp message
  | .ok f =>
    Task.log .info ("Loaded flow definition \"" ++ f.name.text ++ "\" (" ++
      toString f.actions.length ++ " actions)")
    let problems ← c.problems
    if problems.isEmpty then runBuild c f
    else
      problems.forM fun p => complain ("Configuration error: " ++ p)
      return 1

def validate (path : String) : Work ExitCode := do
  match ← readFlow path with
  | .error message => giveUp message
  | .ok f =>
    let verdict ← Task.ofExcept f.validate
    verdict.errors.forM fun e => say ("ERROR: " ++ e)
    verdict.warnings.forM fun w => say ("WARNING: " ++ w)
    if verdict.valid then
      say ("Flow \"" ++ f.name.text ++ "\" is valid (" ++ toString f.actions.length ++ " actions).")
    else
      say ("Flow \"" ++ f.name.text ++ "\" is invalid (" ++ toString verdict.errors.length ++
        " error(s)).")
    return codeOf verdict.valid

/-- The creator that verifies; what it would build with does not matter. -/
def verifier (client : Client) : Creator :=
  { client := client, sender := .ofOptional .null .null, maxRetries := 3, pacing := .float 0.4
    settling := .float 5 }

def printVerification (v : Verification) : Work ExitCode := do
  say ("Name:    " ++ v.flowName.text)
  say ("ID:      " ++ v.flowId.text)
  say ("Actions: " ++ toString v.actualActions ++ " (expected " ++ toString v.expectedActions ++
    ")")
  v.mismatches.forM fun m => say ("MISMATCH: " ++ m)
  say ("URL:     " ++ flowUrl v.flowId)
  return codeOf v.success

def verify (flowId : String) (path apiKey : Option String) : Work ExitCode := do
  let c ← configure apiKey
  let definition ← match path.filter (!·.isEmpty) with
    | none => pure (Except.ok none)
    | some path => do
      let found ← readFlow path
      pure (found.map some)
  match definition with
  | .error message => giveUp message
  | .ok definition =>
    withClient c "Failed to verify flow"
      (fun client => ((verifier client).verify (.str flowId) definition).within
        (fun _ => .empty) fun s _ => s)
      printVerification

def printFlow (position : Nat) (entry : Json) : Work Unit := do
  let attributes := (← Task.ofExcept (entry.get "attributes")).orEmpty
  let part := fun (key : String) => Task.ofExcept (σ := Unit) (attributes.get key)
  say ("  " ++ toString position ++ ". " ++ (← part "name").text)
  let id ← Task.ofExcept (entry.get "id")
  say ("     ID: " ++ id.text ++ " | Status: " ++ (← part "status").text ++ " | Trigger: " ++
    (← part "trigger_type").text)

def printFlows (flows : Json) : Work ExitCode := do
  let size ← Task.ofExcept flows.size
  say ("Found " ++ toString size ++ " flow(s):")
  let entries ← Task.ofExcept flows.iterate
  entries.zipIdx.forM fun e => printFlow (e.2 + 1) e.1
  return 0

def listFlows (status apiKey : Option String) : Work ExitCode := do
  let c ← configure apiKey
  withClient c "Failed to list flows" (fun client => client.listFlows (optionalText status))
    printFlows

def setStatus (flowId status : String) (apiKey : Option String) : Work ExitCode := do
  let c ← configure apiKey
  withClient c "Failed to update flow status"
    (fun client => client.setFlowStatus (.str flowId) (.str status))
    fun () => do
      say ("Flow " ++ flowId ++ " status updated to: " ++ status)
      return 0

def testConnection (apiKey : Option String) : Work ExitCode := do
  let c ← configure apiKey
  withClient c "Failed to test connection" (fun client => client.testConnection) fun reached => do
    if reached then
      say "Klaviyo API connection successful."
    else
      complain "Klaviyo API connection failed. Check your API key."
    return codeOf reached

def perform : Command → Work ExitCode
  | .build a => build a
  | .validate path => validate path
  | .verify flowId path apiKey => verify flowId path apiKey
  | .listFlows status apiKey => listFlows status apiKey
  | .setStatus flowId status apiKey => setStatus flowId status apiKey
  | .testConnection apiKey => testConnection apiKey

def refuse (message : String) : Work ExitCode := do
  complain ("Error: " ++ message)
  return 2

def hasFile (c : Command) : Work Bool :=
  match c.path? with
  | some path => do
    let found : Path.Found ← Task.ask (.look path)
    return found == .file
  | none => pure true

def run (args : List String) : Work ExitCode := do
  match Command.read args with
  | .error (.usage message) => refuse message
  | .error (.failure f) => throw f
  | .ok c =>
    if ← hasFile c then perform c
    else
      refuse ("Invalid value for '--flow': File '" ++ c.path?.getD "" ++ "' does not exist.")

end MarketingFlow.CommandLine
