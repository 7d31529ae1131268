import MarketingFlow.Domain.Flaw
import MarketingFlow.Json.Basic
import MarketingFlow.Text.Encoding

/-!
# Failures

Everything that can go wrong, by cause. A failure keeps the notes that handlers attach to it on the
way up. Its class name, message and kind are functions of the cause; retry patterns and reports are
matched against these three texts only.
-/

namespace MarketingFlow

/-- What a refused or failed call to the remote service was about. -/
inductive RemoteKind where
  | other
  | auth
  | validation
  | rateLimited
  | server
  | network
  deriving DecidableEq, Repr

namespace RemoteKind

def name : RemoteKind → String
  | other => "remote-error"
  | auth => "auth-error"
  | validation => "validation-error"
  | rateLimited => "rate-limited"
  | server => "server-error"
  | network => "network-error"

def className : RemoteKind → String
  | other => "RemoteError"
  | auth => "AuthError"
  | validation => "RemoteValidationError"
  | rateLimited => "RateLimitedError"
  | server => "ServerError"
  | network => "NetworkError"

def permanent : RemoteKind → Bool
  | auth => true
  | validation => true
  | _ => false

end RemoteKind

/-- Failures of the surroundings: files, connections and time. -/
inductive SystemKind where
  | general
  | fileNotFound
  | isDirectory
  | notDirectory
  | timeout
  | connection
  deriving DecidableEq, Repr

def SystemKind.className : SystemKind → String
  | general => "OSError"
  | fileNotFound => "FileNotFoundError"
  | isDirectory => "IsADirectoryError"
  | notDirectory => "NotADirectoryError"
  | timeout => "TimeoutError"
  | connection => "ConnectionError"

/-- Uses of a value that its type does not allow. Types go by their names in error texts. -/
inductive Misuse where
  | noMember (type member : String)
  | notIterable (type : String)
  | notAKey (type : String)
  | absentKey (key : String)
  | badOperand (message : String)
  | divisionByZero (message : String)
  | overflow (message : String)
  | badAddress (message : String)
  deriving DecidableEq, Repr

namespace Misuse

def className : Misuse → String
  | noMember _ _ => "AttributeError"
  | notIterable _ => "TypeError"
  | notAKey _ => "TypeError"
  | absentKey _ => "KeyError"
  | badOperand _ => "TypeError"
  | divisionByZero _ => "ZeroDivisionError"
  | overflow _ => "OverflowError"
  | badAddress _ => "InvalidURL"

def message : Misuse → String
  | noMember type member => "'" ++ type ++ "' object has no attribute '" ++ member ++ "'"
  | notIterable type => "'" ++ type ++ "' object is not iterable"
  | notAKey type => "unhashable type: '" ++ type ++ "'"
  | absentKey key => "'" ++ key ++ "'"
  | badOperand text => text
  | divisionByZero text => text
  | overflow text => text
  | badAddress text => text

end Misuse

inductive Cause where
  | general (message : String)
  /-- The validator rejected the flow. -/
  | structural (errors : List String)
  /-- A backend cannot represent something. -/
  | capability (message : String) (actionId : Option String) (backend : String)
  /-- A name stands for no known resource. -/
  | resolution (message : String) (name : Json) (available : List Json)
  | remote (kind : RemoteKind) (message : String) (status : Json) (body : Json)
  /-- A step in the visual builder failed. -/
  | uiStep (message : String) (step : Json)
  | value (message : String)
  /-- A text is not a JSON document. -/
  | decode (message : String)
  /-- Bytes are no text. -/
  | unreadable (message : String)
  /-- A text has characters that cannot be sent. -/
  | unwritable (message : String)
  /-- A text is not the name of a domain. -/
  | domain (flaw : Domain.Flaw)
  | runtime (message : String)
  /-- A document has arrays or objects inside of too many others. -/
  | tooDeep (kind : String)
  | system (kind : SystemKind) (message : String)
  | unknownField (message : String)
  | misuse (m : Misuse)

namespace Cause

def className : Cause → String
  | general _ => "FlowwrightError"
  | structural _ => "StructuralError"
  | capability _ _ _ => "CapabilityError"
  | resolution _ _ _ => "ResolutionError"
  | remote kind _ _ _ => kind.className
  | uiStep _ _ => "UIStepError"
  | value _ => "ValueError"
  | decode _ => "JSONDecodeError"
  | unreadable _ => "UnicodeDecodeError"
  | unwritable _ => "UnicodeEncodeError"
  | domain flaw => flaw.className
  | runtime _ => "RuntimeError"
  | tooDeep _ => "RecursionError"
  | system kind _ => kind.className
  | unknownField _ => "TypeError"
  | misuse m => m.className

def message : Cause → String
  | general text => text
  | structural errors => "Flow definition is invalid: " ++ "; ".intercalate errors
  | capability text _ _ => text
  | resolution text _ _ => text
  | remote _ text _ _ => text
  | uiStep text _ => text
  | value text => text
  | decode text => text
  | unreadable text => text
  | unwritable text => text
  | domain flaw => flaw.message
  | runtime text => text
  | tooDeep kind => "maximum recursion depth exceeded while decoding a JSON " ++ kind ++
    " from a unicode string"
  | system _ text => text
  | unknownField text => text
  | misuse m => m.message

/-- The failures that the build itself foresees and reports; all others are accidents. -/
def foreseen : Cause → Bool
  | general _ => true
  | structural _ => true
  | capability _ _ _ => true
  | resolution _ _ _ => true
  | remote _ _ _ _ => true
  | uiStep _ _ => true
  | _ => false

/-- Something is there, but not fit for its purpose: a value, a text or bytes. -/
def isUnfit : Cause → Bool
  | value _ => true
  | decode _ => true
  | unreadable _ => true
  | unwritable _ => true
  | domain _ => true
  | _ => false

/-- Something about the surroundings. -/
def isSystem : Cause → Bool
  | system _ _ => true
  | _ => false

/-- A numeral that is too long to be read. -/
def tooManyDigits (digits : Nat) : Cause :=
  value ("Exceeds the limit (4300 digits) for integer string conversion: value has " ++
    toString digits ++ " digits; use sys.set_int_max_str_digits() to increase the limit")

def kind? : Cause → Option String
  | remote kind _ _ _ => some kind.name
  | uiStep _ _ => some "ui-step-error"
  | _ => none

end Cause

/-- A cause, a kind that stands in for the cause's own, and the notes attached so far. -/
structure Failure where
  cause : Cause
  kindOverride : Option Json := none
  notes : List String := []

namespace Failure

def className (f : Failure) : String :=
  f.cause.className

def message (f : Failure) : String :=
  f.cause.message

def foreseen (f : Failure) : Bool :=
  f.cause.foreseen

def addNote (f : Failure) (note : String) : Failure :=
  { f with notes := f.notes ++ [note] }

def remoteKind? (f : Failure) : Option RemoteKind :=
  match f.cause with
  | .remote kind _ _ _ => some kind
  | _ => none

def misuse (m : Misuse) : Failure :=
  { cause := .misuse m }

def value (message : String) : Failure :=
  { cause := .value message }

def capability (message : String) (actionId : Option String) (backend : String) : Failure :=
  { cause := .capability message actionId backend }

def resolution (message : String) (name : Json) (available : List Json) : Failure :=
  { cause := .resolution message name available }

def uiStep (message : String) (step : Json) : Failure :=
  { cause := .uiStep message step }

/-- Refuses a text that an encoding cannot hold. -/
def checkEncoding (e : Text.Encoding) (text : String) : Except Failure Unit :=
  match e.flaw? text with
  | some flaw => .error { cause := .unwritable flaw }
  | none => .ok ()

end Failure

namespace Json

/-- The members of an object; reading `member` of any other value is a misuse. -/
def members (v : Json) (member : String) : Except Failure Members :=
  match v with
  | obj ms => .ok ms
  | other => .error (Failure.misuse (.noMember other.typeName member))

/-- The member of an object under a key, null if there is none. -/
def get (v : Json) (key : String) : Except Failure Json := do
  return (← v.members "get").value key

/-- A value that may be a key of a table. -/
def asKey (v : Json) : Except Failure Json :=
  if v.isKey then .ok v else .error (Failure.misuse (.notAKey v.typeName))

/-- What going through a value yields: the items of an array, the keys of an object, the code points
of a text. -/
def iterate (v : Json) : Except Failure (List Json) :=
  match v with
  | arr xs => .ok xs
  | obj ms => .ok (ms.map fun m => str m.1)
  | str s => .ok ((Text.singles s).map str)
  | other => .error (Failure.misuse (.notIterable other.typeName))

end Json

end MarketingFlow
