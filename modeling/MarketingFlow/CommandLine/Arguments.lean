import MarketingFlow.Build.Mode
import MarketingFlow.Decimal.Numeral
import MarketingFlow.Files.Found
import MarketingFlow.Service.Client

/-!
# Arguments

The commands and their options. An option has a long form and sometimes a short one; its value
follows it, or is joined to it. Of an option that is given several times the last one counts.
Anything that does not fit is a wrong usage, which says what is wrong; a text that is no path at all
is a failure. First all options are read, then their values are checked in the order in which the
options were given, those that were not given at the end.
-/

namespace MarketingFlow.CommandLine

inductive Misuse where
  | usage (message : String)
  | failure (f : Failure)

/-- An option: the key it sets, its forms, and the value of a switch; other options take theirs from
the arguments. -/
structure OptionForm where
  key : String
  long : String
  short : Option Char := none
  switch : Option String := none

/-- Values by keys, the latest first. -/
abbrev Values := List (String × String)

def takeValue (form : OptionForm) : List String → Except Misuse (String × List String)
  | [] => .error (.usage ("Option '" ++ form.long ++ "' requires an argument."))
  | value :: rest => .ok (value, rest)

/-- Reads a long option that may have its value joined by an equals sign. -/
def readLong (forms : List OptionForm) (arg : String) (rest : List String) :
    Except Misuse ((String × String) × List String) :=
  let name := arg.toList.takeWhile (· != '=')
  let joined := (arg.toList.dropWhile (· != '=')).drop 1
  let hasJoined := arg.toList.contains '='
  match forms.find? fun f => f.long.toList = name with
  | none => .error (.usage ("No such option: " ++ arg))
  | some form =>
    match form.switch, hasJoined with
    | some _, true => .error (.usage ("Option '" ++ form.long ++ "' does not take a value."))
    | some value, false => .ok ((form.key, value), rest)
    | none, true => .ok ((form.key, String.ofList joined), rest)
    | none, false => do
      let (value, rest) ← takeValue form rest
      return ((form.key, value), rest)

/-- Reads short options that share one dash. The first that takes a value takes what is left of the
argument, or the next one. -/
def readShort (forms : List OptionForm) (values : Values) (rest : List String) :
    List Char → Except Misuse (Values × List String)
  | [] => .ok (values, rest)
  | c :: more =>
    match forms.find? fun f => f.short == some c with
    | none =>
      let name := (Text.singles (String.ofList (c :: more))).headD ""
      .error (.usage ("No such option: -" ++ name))
    | some form =>
      match form.switch with
      | some value => readShort forms ((form.key, value) :: values) rest more
      | none => do
        let (value, rest) ← if more.isEmpty then takeValue form rest
          else pure (String.ofList more, rest)
        return ((form.key, value) :: values, rest)

/-- The arguments of a command: its options and what else there is, which no command takes. -/
structure Given where
  values : Values
  others : List String

/-- Reads all arguments. Two dashes end the options. -/
def readGiven (forms : List OptionForm) (given : Given) (args : List String) :
    Except Misuse Given :=
  match args with
  | [] => .ok given
  | arg :: rest =>
    match arg.toList with
    | ['-', '-'] => .ok { given with others := given.others ++ rest }
    | '-' :: '-' :: _ =>
      match readLong forms arg rest with
      | .error e => .error e
      | .ok (value, rest') =>
        if rest'.length ≤ rest.length then
          readGiven forms { given with values := value :: given.values } rest'
        else .ok given
    | '-' :: c :: more =>
      match readShort forms given.values rest (c :: more) with
      | .error e => .error e
      | .ok (values, rest') =>
        if rest'.length ≤ rest.length then readGiven forms { given with values := values } rest'
        else .ok given
    | _ => readGiven forms { given with others := given.others ++ [arg] } rest
termination_by args.length
decreasing_by all_goals simp only [List.length_cons]; omega

/-- The place of an option among those given, by the first time it was given. -/
def Given.place (g : Given) (form : OptionForm) : Nat :=
  (g.values.map Prod.fst).reverse.idxOf form.key

def Given.checkOthers (g : Given) : Except Misuse Unit :=
  if g.others.isEmpty then .ok ()
  else .error (.usage ("Got unexpected extra argument" ++ (if g.others.length = 1 then "" else "s") ++
    " (" ++ " ".intercalate g.others ++ ")"))

/-- Reads the options of a command and checks their values, each by its own check. -/
def readChecked (forms : List OptionForm)
    (checks : List (OptionForm × (Values → Except Misuse Unit))) (args : List String) :
    Except Misuse Values := do
  let given ← readGiven forms ⟨[], []⟩ args
  let inOrder := checks.mergeSort fun a b => given.place a.1 ≤ given.place b.1
  inOrder.forM fun check => check.2 given.values
  given.checkOthers
  return given.values

def flowForm : OptionForm := { key := "flow", long := "--flow", short := some 'f' }
def keyForm : OptionForm := { key := "api_key", long := "--api-key", short := some 'k' }
def idForm : OptionForm := { key := "flow_id", long := "--flow-id" }

structure BuildArguments where
  flowPath : String
  mode : Option String
  apiKey : Option String
  headless : Option Bool
  slowMo : Option Int
  verbose : Bool

inductive Command where
  | build (a : BuildArguments)
  | validate (flowPath : String)
  | verify (flowId : String) (flowPath apiKey : Option String)
  | listFlows (status apiKey : Option String)
  | setStatus (flowId status : String) (apiKey : Option String)
  | testConnection (apiKey : Option String)

namespace Command

/-- A file that has to exist. -/
def path? : Command → Option String
  | build a => some a.flowPath
  | validate path => some path
  | verify _ path _ => path
  | _ => none

def required (form : OptionForm) (values : Values) : Except Misuse String :=
  match values.lookup form.key with
  | some value => .ok value
  | none => .error (.usage ("Missing option '" ++ form.long ++ "'."))

def choice (form : OptionForm) (allowed : List String) (values : Values) :
    Except Misuse (Option String) :=
  match values.lookup form.key with
  | none => .ok none
  | some value =>
    if allowed.contains value then .ok (some value)
    else .error (.usage ("Invalid value for '" ++ form.long ++ "': '" ++ value ++
      "' is not one of " ++ ", ".intercalate (allowed.map fun a => "'" ++ a ++ "'") ++ "."))

def integer (form : OptionForm) (values : Values) : Except Misuse (Option Int) :=
  match values.lookup form.key with
  | none => .ok none
  | some value =>
    match Decimal.Numeral.readInt value with
    | .ok n => .ok (some n)
    | .error _ => .error (.usage ("Invalid value for '" ++ form.long ++ "': '" ++ value ++
        "' is not a valid integer."))

def path (form : OptionForm) (values : Values) : Except Misuse (Option String) :=
  match values.lookup form.key with
  | none => .ok none
  | some value =>
    match Path.check value with
    | .ok () => .ok (some value)
    | .error f => .error (.failure f)

/-- A path that has to be given. -/
def requiredPath (form : OptionForm) (values : Values) : Except Misuse String := do
  let _ ← path form values
  required form values

def modeForm : OptionForm := { key := "mode", long := "--mode", short := some 'm' }
def slowForm : OptionForm := { key := "slow_mo", long := "--slow-mo" }

def buildForms : List OptionForm :=
  [flowForm, modeForm, keyForm, { key := "headless", long := "--headless", switch := some "yes" },
    { key := "headless", long := "--no-headless", switch := some "no" }, slowForm,
    { key := "verbose", long := "--verbose", short := some 'v', switch := some "yes" }]

def readBuild (args : List String) : Except Misuse Command := do
  let mode := choice modeForm (Mode.all.map Mode.name)
  let values ← readChecked buildForms
    [(flowForm, fun vs => discard (requiredPath flowForm vs)),
      (modeForm, fun vs => discard (mode vs)),
      (slowForm, fun vs => discard (integer slowForm vs))] args
  return build
    { flowPath := ← requiredPath flowForm values
      mode := ← mode values
      apiKey := values.lookup keyForm.key
      headless := (values.lookup "headless").map (· == "yes")
      slowMo := ← integer slowForm values
      verbose := (values.lookup "verbose").isSome }

def statusForm : OptionForm := { key := "status", long := "--status", short := some 's' }
def longStatusForm : OptionForm := { key := "status", long := "--status" }

def readValidate (args : List String) : Except Misuse Command := do
  let values ← readChecked [flowForm]
    [(flowForm, fun vs => discard (requiredPath flowForm vs))] args
  return validate (← requiredPath flowForm values)

def readVerify (args : List String) : Except Misuse Command := do
  let values ← readChecked [idForm, flowForm, keyForm]
    [(idForm, fun vs => discard (required idForm vs)),
      (flowForm, fun vs => discard (path flowForm vs))] args
  return verify (← required idForm values) (← path flowForm values) (values.lookup keyForm.key)

def readListFlows (args : List String) : Except Misuse Command := do
  let status := choice statusForm flowStatuses
  let values ← readChecked [statusForm, keyForm]
    [(statusForm, fun vs => discard (status vs))] args
  return listFlows (← status values) (values.lookup keyForm.key)

def readSetStatus (args : List String) : Except Misuse Command := do
  let status := choice longStatusForm flowStatuses
  let values ← readChecked [idForm, longStatusForm, keyForm]
    [(idForm, fun vs => discard (required idForm vs)),
      (longStatusForm, fun vs => discard (do
        let _ ← status vs
        required longStatusForm vs))] args
  return setStatus (← required idForm values) (← required longStatusForm values)
    (values.lookup keyForm.key)

def readTestConnection (args : List String) : Except Misuse Command := do
  let values ← readChecked [keyForm] [] args
  return testConnection (values.lookup keyForm.key)

def readNamed : List String → Except Misuse Command
  | "build" :: args => readBuild args
  | "validate" :: args => readValidate args
  | "verify" :: args => readVerify args
  | "list-flows" :: args => readListFlows args
  | "set-status" :: args => readSetStatus args
  | "test-connection" :: args => readTestConnection args
  | name :: _ => .error (.usage ("No such command '" ++ name ++ "'."))
  | [] => .error (.usage "Missing command.")

/-- The command that the arguments give. Two dashes may stand before its name. -/
def read : List String → Except Misuse Command
  | "--" :: args => readNamed args
  | args => readNamed args

end Command

end MarketingFlow.CommandLine
