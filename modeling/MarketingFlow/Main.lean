import MarketingFlow.CommandLine.Run
import MarketingFlow.Journal

/-!
# The program

Carries the commands out at a terminal. Files, variables, time and the journal are those of the
machine; texts are kept when they come in and spelled out when they go out. The program itself opens no connection and has no browser: a request and a session fail
as if nobody were there, and the commands report it.
-/

namespace MarketingFlow.Terminal

def noBrowser : Failure :=
  { cause := .runtime "No browser is available" }

/-- Until a command sets a journal up, warnings go to the terminal. -/
def firstJournal : Journal :=
  { level := 30, file := none }

def writeEntry (j : Journal) (level : Level) (text : String) : IO Unit := do
  let n := (Journal.levelNames.lookup level.name).getD Journal.standardLevel
  if j.keeps n then
    let line := Text.spell (Journal.entry "flowwright" n text)
    IO.eprintln line
    match j.file with
    | some path =>
      IO.FS.withFile (Text.spell path) .append fun handle => handle.putStrLn line
    | none => return ()

/-- The number of the error that opening a directory as a file ends in. -/
def directoryError : UInt32 := 21

def look (path : String) : IO Path.Found := do
  match ← (IO.FS.readBinFile (Text.spell path)).toBaseIO with
  | .ok _ => return .file
  | .error (.inappropriateType _ code _) =>
    return if code = directoryError then .directory else .nothing
  | .error (.invalidArgument _ _ _) => return .nameTooLong
  | .error _ => return .nothing

def sleep (seconds : Number) : IO Unit :=
  match seconds.toFloat with
  | .ok s => IO.sleep (s * 1000).toUInt32
  | .error _ => return ()

def answer (journal : IO.Ref Journal) : (c : World.Call) → IO c.Answer
  | .send r => return .broken ("No connection to " ++ r.host)
  | .connect _ => return ()
  | .sleep seconds => sleep seconds
  | .log level text => do writeEntry (← journal.get) level text
  | .openSession => return .error noBrowser
  | .closeSession _ => return .ok ()
  | .perform _ => return .error noBrowser
  | .screenshot _ => return .error noBrowser
  | .openFlow _ => return .error noBrowser
  | .currentFlow => return .null
  | .workingDirectory => do return Text.keep (← IO.currentDir).toString
  | .look path => look path
  | .fileBytes path => IO.FS.readBinFile (Text.spell path)
  | .lookUp name => do return (← IO.getEnv (Text.spell name)).map Text.keep
  | .clock => do return (← IO.monoMsNow).toFloat / 1000
  | .keepJournal level =>
    match Journal.setUp level (some Journal.standardFile) with
    | .ok j => journal.set j
    | .error _ => return ()
  | .print .out line => IO.println (Text.spell line)
  | .print .err line => IO.eprintln (Text.spell line)

partial def carryOut (journal : IO.Ref Journal) : {α : Type} → Program World α → IO α
  | _, .done a => return a
  | _, .call c next => do carryOut journal (next (← answer journal c))
  | _, .loop body start next => do
    match ← carryOut journal (body start) with
    | .inl s => carryOut journal (.loop body s next)
    | .inr b => carryOut journal (next b)

end MarketingFlow.Terminal

open MarketingFlow in
def main (args : List String) : IO UInt32 := do
  let journal ← IO.mkRef Terminal.firstJournal
  match ← Terminal.carryOut journal ((CommandLine.run (args.map Text.keep)).start ()) with
  | (.ok code, _) => return code.toUInt32
  | (.error failure, _) =>
    IO.eprintln (Text.spell (failure.className ++ ": " ++ failure.message))
    return 1
