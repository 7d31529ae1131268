import MarketingFlow.Interaction.World
import MarketingFlow.Json.Equality
import MarketingFlow.Text.Case

/-!
# Directories of names

A directory knows the ids of the account's metrics or lists by their names. The listing is loaded
at the first look-up and kept; a load that fails is tried again by the next look-up. Look-ups may
run side by side: they share one table, and a lock lets only one of them load at a time. A look-up
is therefore a program over the calls that such a run can see — waiting for the lock, reading and
writing the table, loading, sleeping — and `Directory.alone` runs one by itself.
-/

namespace MarketingFlow

/-- Ids by names in the order of the listing. Names are any values that can be keys, told apart by
equality of values. -/
abbrev NameTable := List (Json × Json)

namespace NameTable

def idOf? (t : NameTable) (name : Json) : Option Json :=
  (List.find? (fun entry => entry.1.sameKey name) t).map Prod.snd

/-- Adds an entry unless the name is taken. -/
def add (t : NameTable) (name id : Json) : NameTable :=
  if (t.idOf? name).isSome then t else t ++ [(name, id)]

end NameTable

/-- What look-ups share. -/
structure Directory where
  table : NameTable
  loaded : Bool

def Directory.empty : Directory := ⟨[], false⟩

inductive Directory.Call where
  | acquire
  | release
  | read
  | write (d : Directory)
  | load
  | sleep (seconds : Number)
  | log (level : Level) (text : String)

def Directory.Call.Answer : Directory.Call → Type
  | acquire => Unit
  | release => Unit
  | read => Directory
  | write _ => Unit
  | load => Except Failure Json
  | sleep _ => Unit
  | log _ _ => Unit

/-- What a look-up can ask of its surroundings. -/
abbrev Lookup : Interface := ⟨Directory.Call, Directory.Call.Answer⟩

instance : MonadJournal (Program Lookup) where
  log level text := Program.ask (I := Lookup) (.log level text)

instance : MonadSleep Number (Program Lookup) where
  sleep seconds := Program.ask (I := Lookup) (.sleep seconds)

namespace Directory

/-- The kind of resource a directory lists, and how its loads are retried, if at all. -/
structure Profile where
  kind : String
  retry : Option (RetryOptions Number)

abbrev LookupM := ExceptT Failure (Program Lookup)

def ask (c : Directory.Call) : LookupM c.Answer :=
  ExceptT.lift (Program.ask (I := Lookup) c)

/-- One load, retried if the profile says so. -/
def load (p : Profile) : LookupM Json :=
  let once : Program Lookup (Except Failure Json) := Program.ask (I := Lookup) .load
  match p.retry with
  | none => ExceptT.mk once
  | some options => ExceptT.mk (retry once ("Load account " ++ p.kind ++ "s") options)

/-- Takes one entry of a listing into the table. Entries without a name or an id are passed over. -/
def addEntry (t : NameTable) (entry : Json) : Except Failure NameTable := do
  let name ← entry.get "name"
  let id ← entry.get "id"
  if name.given && id.given then return t.add (← name.asKey) id
  else return t

/-- Takes the entries one after the other, up to the first that cannot be read. -/
def fill (entries : List Json) : LookupM Unit := do
  match entries with
  | [] => return
  | entry :: rest =>
    let d ← ask .read
    let table ← ExceptT.mk (pure (addEntry d.table entry))
    ask (.write { d with table := table })
    fill rest

def loadIfNeeded (p : Profile) : LookupM Unit := do
  if (← ask .read).loaded then return
  ask (.log .info ("Loading account " ++ p.kind ++ "s..."))
  let entries ← ExceptT.mk (do return (← (load p).run).bind Json.iterate)
  fill entries
  let d ← ask .read
  ask (.write { d with loaded := true })
  ask (.log .info
    ("Loaded " ++ toString d.table.length ++ " " ++ p.kind ++ "s from account."))

/-- Loads under the lock, which is given back in any case. -/
def ensureLoaded (p : Profile) : LookupM Unit := do
  ask .acquire
  let r ← ExceptT.lift (loadIfNeeded p).run
  ask .release
  ExceptT.mk (pure r)

def names (p : Profile) : LookupM (List Json) := do
  ensureLoaded p
  return (← ask .read).table.map Prod.fst

/-- A text with its case folded away; no other value has one. -/
def folded (v : Json) : Except Failure String :=
  match v with
  | .str s => .ok (Text.lower s)
  | v => .error (Failure.misuse (.noMember v.typeName "lower"))

/-- The first entry whose name contains the wanted one or is contained in it, case aside. -/
def fuzzy (wanted : String) : NameTable → Except Failure (Option (Json × Json))
  | [] => .ok none
  | (name, id) :: rest => do
    let candidate ← folded name
    if Text.contains candidate wanted || Text.contains wanted candidate then
      return some (name, id)
    else fuzzy wanted rest

/-- The id of a name in the table as it is: an exact match first, then a fuzzy one. -/
def findLoaded (p : Profile) (name : Json) : LookupM Json := do
  let table := (← ask .read).table
  let key ← ExceptT.mk (pure name.asKey)
  match table.idOf? key with
  | some id => return id
  | none =>
    let wanted ← ExceptT.mk (pure (folded key))
    if wanted.isEmpty then return .null
    match ← ExceptT.mk (pure (fuzzy wanted table)) with
    | some (found, id) =>
      ask (.log .info
        ("Fuzzy matched \"" ++ name.text ++ "\" to \"" ++ found.text ++ "\" (" ++ id.text ++ ")"))
      return id
    | none =>
      ask (.log .warning (Text.capitalize p.kind ++ " \"" ++ name.text ++ "\" not found."))
      return .null

def find (p : Profile) (name : Json) : LookupM Json := do
  ensureLoaded p
  findLoaded p name

variable {σ α : Type}

/-- The answer to a call of a look-up that runs by itself: the lock is always free. -/
def answer (loader : Task σ Json) : (c : Directory.Call) → Directory × σ →
    Program World (c.Answer × (Directory × σ))
  | .acquire, s => pure ((), s)
  | .release, s => pure ((), s)
  | .read, s => pure (s.1, s)
  | .write d, s => pure ((), (d, s.2))
  | .load, s => do
    let (r, x) ← loader.start s.2
    return (r, (s.1, x))
  | .sleep seconds, s => do
    Program.ask (I := World) (.sleep seconds)
    return ((), s)
  | .log level text, s => do
    Program.ask (I := World) (.log level text)
    return ((), s)

/-- A look-up as a task on the directory and on the state of the loader. -/
def alone (loader : Task σ Json) (l : LookupM α) : Task (Directory × σ) α :=
  ExceptT.mk fun s => l.run.translate (answer loader) s

end Directory

end MarketingFlow
