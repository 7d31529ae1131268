import MarketingFlow.Configuration.Basic
import MarketingFlow.Configuration.Bindings
import MarketingFlow.Decimal.Numeral
import MarketingFlow.Files.Path
import MarketingFlow.Text.Case
import MarketingFlow.Text.Utf8

/-!
# Loading a configuration

Values come from the variables of the process first, then from a file of variables, then from the
defaults; overrides go over all of them. A variable that is set to nothing counts as not set.
-/

namespace MarketingFlow.Configuration

variable {σ : Type}

def fileText (path : String) : Task σ (List Char) := do
  match Text.Utf8.decode (← Task.ask (.fileBytes path)) with
  | .ok cs => return Text.Utf8.oneLineEnd cs
  | .error flaw => throw { cause := .unreadable flaw.message }

/-- The value of a name among the variables of a file; the last binding counts. -/
def lastValue? (known : List (String × Option String)) (name : String) : Option (Option String) :=
  known.reverse.lookup name

/-- The text of a piece of a value: the process's variable first, then one bound earlier in the
file. -/
def expandPiece (known : List (String × Option String)) : Piece → Task σ String
  | .plain text => return String.ofList text
  | .reference name substitute => do
    match ← Task.ask (.lookUp name) with
    | some value => return value
    | none =>
      match lastValue? known name with
      | some value => return value.getD ""
      | none => return substitute

def expand (known : List (String × Option String)) (value : String) : Task σ String := do
  let texts ← (Piece.split [] value.toList).mapM (expandPiece known)
  return String.join texts

/-- Expands the bindings in order; each sees those before it. -/
def expandAll (known : List (String × Option String)) :
    List Binding → Task σ (List (String × Option String))
  | [] => return known
  | b :: rest => do
    let value ← b.value.mapM (expand known)
    expandAll (known ++ [(b.name, value)]) rest

/-- Why a variable cannot be set. -/
def settingFlaw? (name value : String) : Option String :=
  if name.toList.contains '\x00' || value.toList.contains '\x00' then some "embedded null byte"
  else if name.toList.contains '=' then some "illegal environment variable name"
  else none

/-- The variables that the bindings of a file set, in the order in which their names come first. A
variable of the process stays as it is, and a name without a value sets nothing. -/
def newVariables (bound : List (String × Option String)) : Task σ (List (String × String)) := do
  let names := (bound.map Prod.fst).eraseDups
  let found ← names.mapM fun name => do
    match (lastValue? bound name).getD none with
    | none => return none
    | some value => do
      if (← Task.ask (.lookUp name)).isSome then return none
      match settingFlaw? name value with
      | some flaw => throw (Failure.value flaw)
      | none => return some (name, value)
  return found.filterMap id

/-- The words that turn the reading of files off. -/
def offWords : List String :=
  ["1", "true", "t", "yes", "y"]

/-- A variable of the process may turn the reading of files off. A long s in its word counts as an
s. -/
def readsFiles : Task σ Bool := do
  match ← Task.ask (.lookUp "PYTHON_DOTENV_DISABLED") with
  | none => return true
  | some word =>
    let plain := word.toList.map fun c => if c = 'ſ' then 's' else c
    return !offWords.contains (Text.lower (String.ofList plain))

/-- The variables of a file; a file that is not there has none. -/
def fileVariables (path : String) : Task σ (List (String × String)) := do
  if !(← readsFiles) then return []
  Task.ofExcept (Path.check path)
  let found : Path.Found ← Task.ask (.look path)
  if found != .file then return []
  newVariables (← expandAll [] (Binding.readAll (Binding.skipMark (← fileText path))))

/-- A variable of the process, or else of the file, unless it is set to nothing. -/
def valueOf? (file : List (String × String)) (name : String) : Task σ (Option String) := do
  let value := (← Task.ask (.lookUp name)).or (file.lookup name)
  return value.filter (!·.isEmpty)

/-- A variable that a configuration reads, the field it sets and how its text is read. -/
structure Source where
  variableName : String
  field : String
  read : String → Except Failure Json

def asText (s : String) : Except Failure Json :=
  .ok (.str s)

def asInt (s : String) : Except Failure Json := do
  return .int (← Decimal.Numeral.readInt s)

def asFloat (s : String) : Except Failure Json := do
  return .float (← Decimal.Numeral.readFloat s)

/-- The words that turn a switch off. -/
def noWords : List String :=
  ["false", "0", "no", "off"]

/-- Everything but a word for no means yes. -/
def asSwitch (s : String) : Except Failure Json :=
  let word := Text.lower (String.ofList (Text.trim s.toList))
  .ok (.bool (!noWords.contains word))

def sources : List Source :=
  [⟨"BUILD_MODE", "mode", asText⟩, ⟨"KLAVIYO_API_KEY", "api_key", asText⟩,
    ⟨"KLAVIYO_API_REVISION", "api_revision", asText⟩, ⟨"KLAVIYO_BASE_URL", "base_url", asText⟩,
    ⟨"KLAVIYO_EMAIL", "email", asText⟩, ⟨"KLAVIYO_FROM_LABEL", "from_label", asText⟩,
    ⟨"HEADLESS", "headless", asSwitch⟩, ⟨"SLOW_MO", "slow_mo", asInt⟩,
    ⟨"SCREENSHOT_DIR", "screenshot_dir", asText⟩, ⟨"STORAGE_STATE", "storage_state", asText⟩,
    ⟨"LOG_LEVEL", "log_level", asText⟩, ⟨"MAX_RETRIES", "max_retries", asInt⟩,
    ⟨"PAGE_TIMEOUT", "page_timeout", asInt⟩, ⟨"PACING_DELAY", "pacing_delay", asFloat⟩]

/-- Sets the fields whose variables are set, in order. -/
def applySources (file : List (String × String)) : List Source → Config → Task σ Config
  | [], c => return c
  | source :: rest, c => do
    match ← valueOf? file source.variableName with
    | none => applySources file rest c
    | some text =>
      let c ← Task.ofExcept (do c.set source.field (← source.read text))
      applySources file rest c

/-- The configuration of the surroundings with overrides. Variables are read from `file`, or from
`.env` in the working directory. -/
def load (file : Option String) (overrides : Members) : Task σ Config := do
  let path ← match file.filter (!·.isEmpty) with
    | some path => pure path
    | none => do
      let directory ← Task.ask .workingDirectory
      pure (Path.resolve directory ".env")
  let known ← fileVariables path
  let c ← applySources known sources {}
  Task.ofExcept (c.override overrides)

end MarketingFlow.Configuration
