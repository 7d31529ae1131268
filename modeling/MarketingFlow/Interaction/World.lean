import MarketingFlow.Failure
import MarketingFlow.Files.Found
import MarketingFlow.Http.Message
import MarketingFlow.Interaction.Program
import MarketingFlow.Retry
import MarketingFlow.Plan.Step

/-!
# The world of a build

Everything that a build may ask of the outside: the remote service, the visual builder, files,
variables, time, the journal and the terminal. A `Task` is a program over these calls that keeps a
state of type `σ` and may fail; what it did to its state stays done when it fails.
-/

namespace MarketingFlow

/-- What a client for the remote service is made from. -/
structure Connection where
  apiKey : Json
  revision : Json
  baseUrl : Json
  timeout : Json

/-- Where a line is printed. -/
inductive Stream where
  | out
  | err
  deriving DecidableEq, Repr

inductive World.Call where
  | send (r : Request)
  | connect (c : Connection)
  | sleep (seconds : Number)
  | log (level : Level) (text : String)
  | openSession
  | closeSession (endedWell : Bool)
  | perform (s : Step)
  | screenshot (name : String)
  | openFlow (id : Json)
  | currentFlow
  | workingDirectory
  | look (path : String)
  | fileBytes (path : String)
  | lookUp (name : String)
  | clock
  | keepJournal (level : String)
  | print (stream : Stream) (line : String)

/-- The types of the answers. The clock counts seconds from any start, and `keepJournal` names the
level from which on messages are kept. Steps in the visual builder may fail in any way; a screenshot
is the path of its file, or nothing given. -/
def World.Call.Answer : World.Call → Type
  | send _ => Reply
  | connect _ => Unit
  | sleep _ => Unit
  | log _ _ => Unit
  | openSession => Except Failure Unit
  | closeSession _ => Except Failure Unit
  | perform _ => Except Failure Unit
  | screenshot _ => Except Failure Json
  | openFlow _ => Except Failure Unit
  | currentFlow => Json
  | workingDirectory => String
  | look _ => Path.Found
  | fileBytes _ => ByteArray
  | lookUp _ => Option String
  | clock => Float
  | keepJournal _ => Unit
  | print _ _ => Unit

abbrev World : Interface := ⟨World.Call, World.Call.Answer⟩

abbrev Task (σ : Type) := ExceptT Failure (StateT σ (Program World))

namespace Task

variable {σ τ α : Type}

def ask (c : World.Call) : Task σ c.Answer :=
  liftM (Program.ask (I := World) c)

instance : MonadJournal (StateT σ (Program World)) where
  log level text := liftM (Program.ask (I := World) (.log level text))

instance : MonadSleep Number (StateT σ (Program World)) where
  sleep seconds := liftM (Program.ask (I := World) (.sleep seconds))

def log (level : Level) (text : String) : Task σ Unit :=
  ask (.log level text)

def sleep (seconds : Number) : Task σ Unit :=
  ask (.sleep seconds)

/-- Runs the task again after failures, as the options say. -/
def retry (t : Task σ α) (label : String) (o : RetryOptions Number) : Task σ α :=
  ExceptT.mk (MarketingFlow.retry t.run label o)

def loop {β : Type} (body : β → Task σ (β ⊕ α)) (first : β) : Task σ α :=
  ExceptT.mk fun s =>
    Program.loop
      (fun (x, s) => do
        match ← (body x).run.run s with
        | (.error e, s) => return .inr (.error e, s)
        | (.ok (.inl x), s) => return .inl (x, s)
        | (.ok (.inr a), s) => return .inr (.ok a, s))
      (first, s) .done

def result (t : Task σ α) : Task σ (Except Failure α) :=
  ExceptT.lift t.run

def ofExcept (r : Except Failure α) : Task σ α :=
  ExceptT.mk (pure r)

def isFile (path : String) : Task σ Bool := do
  ofExcept (← Path.findFile (fun p => ask (.look p)) path)

/-- Runs a task on a part of the state. -/
def within (part : τ → σ) (replace : τ → σ → τ) (t : Task σ α) : Task τ α :=
  ExceptT.mk fun s => do
    let (r, x) ← t.run.run (part s)
    return (r, replace s x)

/-- Runs a task that needs no state. -/
def stateless (t : Task Unit α) : Task σ α :=
  t.within (fun _ => ()) (fun s _ => s)

def start (t : Task σ α) (s : σ) : Program World (Except Failure α × σ) :=
  t.run.run s

end Task

end MarketingFlow
