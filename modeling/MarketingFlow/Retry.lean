import MarketingFlow.Json.Number
import MarketingFlow.Json.Text
import MarketingFlow.Text.Search

/-!
# Retrying

An attempt that fails is made again after a growing pause, as long as its failure matches and
attempts are left. The pauses grow by a factor and are capped. Retrying works in any monad that can
sleep and keep a journal, and with any kind of numbers that delays can be computed in.
-/

namespace MarketingFlow

inductive Level where
  | debug
  | info
  | warning
  | error
  deriving DecidableEq, Repr

def Level.name : Level → String
  | debug => "DEBUG"
  | info => "INFO"
  | warning => "WARNING"
  | error => "ERROR"

class MonadJournal (m : Type → Type 1) where
  log : Level → String → m Unit

class MonadSleep (δ : outParam Type) (m : Type → Type 1) where
  sleep : δ → m Unit

/-- Numbers that delays are computed in. -/
class Duration (δ : Type) where
  /-- The first number times a power of the second. -/
  grow : δ → δ → Int → Except Failure δ
  least : δ → δ → δ
  /-- The number with two decimal places. -/
  show2 : δ → String

instance : Duration Number where
  grow base factor n := do base.mul (← factor.pow n)
  least := Number.least
  show2 x :=
    match x.toFloat with
    | .ok y => Decimal.fixed 2 y
    | .error _ => "inf"

structure RetryOptions (δ : Type) where
  maxAttempts : Int
  baseDelay : δ
  backoffFactor : δ
  maxDelay : δ
  /-- Texts that a failure has to match to be retried; without any, all failures are. -/
  retryable : List String

namespace RetryOptions

/-- Three attempts with pauses of one and two seconds; all failures are retried. -/
def standard : RetryOptions Number :=
  { maxAttempts := 3
    baseDelay := .float 1
    backoffFactor := .float 2
    maxDelay := .float 15
    retryable := [] }

/-- The kinds of failure that may pass by themselves. -/
def transient : List String :=
  ["rate-limited", "network-error", "server-error"]

def attempts {δ : Type} (o : RetryOptions δ) : Nat :=
  (max 1 o.maxAttempts).toNat

/-- The pause after the attempt with the given number, counted from one. -/
def delayAfter {δ : Type} [Duration δ] (o : RetryOptions δ) (attempt : Int) : Except Failure δ := do
  return Duration.least (← Duration.grow o.baseDelay o.backoffFactor (attempt - 1)) o.maxDelay

end RetryOptions

namespace Failure

def kindText (f : Failure) : String :=
  match f.kindOverride with
  | some v => if v.given then v.text else ""
  | none => f.cause.kind?.getD ""

/-- Some pattern occurs in the message, the class name or the kind, if there is one; without
patterns every failure matches. -/
def isRetryable (f : Failure) (patterns : List String) : Bool :=
  patterns.isEmpty || patterns.any fun p =>
    Text.contains f.message p || Text.contains f.className p ||
      (!f.kindText.isEmpty && Text.contains f.kindText p)

end Failure

section

variable {m : Type → Type 1} {δ α : Type} [Monad m] [MonadJournal m] [MonadSleep δ m] [Duration δ]

/-- Makes the attempt with number `n`, and up to `left` more. -/
def attemptFrom (attempt : m (Except Failure α)) (label : String) (o : RetryOptions δ)
    (n left : Nat) : m (Except Failure α) := do
  match ← attempt with
  | .ok a =>
    if 1 < n then
      MonadJournal.log .info (label ++ " succeeded on attempt " ++ toString n)
    pure (.ok a)
  | .error f =>
    if !f.isRetryable o.retryable then
      MonadJournal.log .error (label ++ " failed with non-retryable error: " ++ f.message)
      pure (.error (f.addNote (label ++ ": non-retryable failure on attempt " ++ toString n)))
    else
      match left with
      | 0 =>
        MonadJournal.log .error
          (label ++ " failed after " ++ toString n ++ " attempts: " ++ f.message)
        pure (.error (f.addNote (label ++ ": failed after " ++ toString n ++ " attempt(s)")))
      | left + 1 =>
        match o.delayAfter n with
        | .error overflow => pure (.error overflow)
        | .ok delay =>
          MonadJournal.log .warning
            (label ++ " failed (attempt " ++ toString n ++ "/" ++ toString (n + left + 1) ++
              "): " ++ f.message ++ ". Retrying in " ++ Duration.show2 delay ++ "s...")
          MonadSleep.sleep delay
          attemptFrom attempt label o (n + 1) left

/-- Makes the attempt up to as many times as the options allow. The last failure is passed on with
a note that names the label. -/
def retry (attempt : m (Except Failure α)) (label : String) (o : RetryOptions δ) :
    m (Except Failure α) :=
  attemptFrom attempt label o 1 (o.attempts - 1)

end

end MarketingFlow
