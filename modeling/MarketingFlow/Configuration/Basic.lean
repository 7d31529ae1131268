import MarketingFlow.Build.Mode
import MarketingFlow.Interaction.World
import MarketingFlow.Json.Text

/-!
# Configuration

What a build needs to know besides its flow. Every value can be overridden by its field's name; an
override is kept as it is given, and the place that uses a value reads it. `Config.problems` says
what would stop a build in the configured mode.
-/

namespace MarketingFlow

structure Config where
  mode : Mode := .api
  apiKey : Json := .str ""
  apiRevision : Json := .str "2024-10-15.pre"
  baseUrl : Json := .str "https://a.klaviyo.com/api"
  email : Json := .str ""
  fromLabel : Json := .str "Store"
  headless : Json := .bool true
  /-- Milliseconds between actions in the browser. -/
  slowMo : Json := .int 0
  screenshotDir : Json := .str "./screenshots"
  /-- The file of a saved browser session. -/
  storageState : Json := .null
  logLevel : Json := .str "info"
  maxRetries : Json := .int 3
  /-- Milliseconds. -/
  pageTimeout : Json := .int 30000
  /-- Seconds between remote calls. -/
  pacingDelay : Json := .float 0.4

namespace Config

def toMembers (c : Config) : Members :=
  [("mode", .str c.mode.name), ("api_key", c.apiKey), ("api_revision", c.apiRevision),
    ("base_url", c.baseUrl), ("email", c.email), ("from_label", c.fromLabel),
    ("headless", c.headless), ("slow_mo", c.slowMo), ("screenshot_dir", c.screenshotDir),
    ("storage_state", c.storageState), ("log_level", c.logLevel), ("max_retries", c.maxRetries),
    ("page_timeout", c.pageTimeout), ("pacing_delay", c.pacingDelay)]

/-- The mode that a value names. -/
def readMode (v : Json) : Except Failure Mode :=
  let named := match v with
    | .str name => Mode.ofName? name
    | _ => none
  match named with
  | some mode => .ok mode
  | none => .error (Failure.value (v.literal ++ " is not a valid BuildMode"))

def set (c : Config) (field : String) (v : Json) : Except Failure Config :=
  match field with
  | "mode" => do return { c with mode := ← readMode v }
  | "api_key" => .ok { c with apiKey := v }
  | "api_revision" => .ok { c with apiRevision := v }
  | "base_url" => .ok { c with baseUrl := v }
  | "email" => .ok { c with email := v }
  | "from_label" => .ok { c with fromLabel := v }
  | "headless" => .ok { c with headless := v }
  | "slow_mo" => .ok { c with slowMo := v }
  | "screenshot_dir" => .ok { c with screenshotDir := v }
  | "storage_state" => .ok { c with storageState := v }
  | "log_level" => .ok { c with logLevel := v }
  | "max_retries" => .ok { c with maxRetries := v }
  | "page_timeout" => .ok { c with pageTimeout := v }
  | "pacing_delay" => .ok { c with pacingDelay := v }
  | _ => .error { cause := .unknownField ("Unknown config field: " ++ field) }

/-- Sets the fields in order. Null means that there is no override. -/
def override (c : Config) (overrides : Members) : Except Failure Config :=
  overrides.foldlM (fun c m => if m.2.isNull then .ok c else c.set m.1 m.2) c

def number (v : Json) : Except Failure Number :=
  match v.number? with
  | some n => .ok n
  | none => .error (Failure.misuse (.badOperand ("'" ++ v.typeName ++ "' is no number")))

def attempts (c : Config) : Except Failure Int := do
  match ← number c.maxRetries with
  | .int n => return n
  | .float _ => throw (Failure.misuse (.badOperand
      "'float' object cannot be interpreted as an integer"))

def timeoutSeconds (c : Config) : Except Failure Float := do
  (← number c.pageTimeout).divNat 1000

variable {σ : Type}

/-- A saved session exists; only a text can name its file. -/
def hasSessionFile (c : Config) : Task σ Bool :=
  match c.storageState with
  | .str path => Task.isFile path
  | v => throw (Failure.misuse (.badOperand
      ("expected str, bytes or os.PathLike object, not " ++ v.typeName)))

/-- What is missing for remote calls. -/
def keyProblems (c : Config) : List String :=
  if c.mode != .browser && !c.apiKey.given then
    ["KLAVIYO_API_KEY is required for " ++ c.mode.name ++
      " mode. Set it in .env or pass --api-key."]
  else []

/-- What is missing for work in a browser. -/
def sessionProblems (c : Config) : Task σ (List String) := do
  if c.mode == .api then return []
  else if !c.storageState.given then
    return ["STORAGE_STATE is required for " ++ c.mode.name ++
      " mode. Point it at a saved Playwright session file."]
  else if ← c.hasSessionFile then return []
  else return ["STORAGE_STATE file not found: " ++ c.storageState.text]

/-- What would stop a build in the configured mode. -/
def problems (c : Config) : Task σ (List String) := do
  return c.keyProblems ++ (← c.sessionProblems)

end Config

end MarketingFlow
