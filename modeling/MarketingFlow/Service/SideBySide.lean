import MarketingFlow.Service.Directory

/-!
# Look-ups side by side

Any number of look-ups in one directory may be under way. A look-up is only interrupted where it
waits: for the lock, for its loader and for the end of a pause. Between two such points it has the
directory to itself. Which of the waiting look-ups goes on next is left open, so that a run is given
by the turns that are taken, together with what the loader came to at each of them.
-/

namespace MarketingFlow.Directory

/-- What a directory can be asked. -/
inductive Question where
  | find (name : String)
  | names

def Question.program (p : Profile) : Question → Program Lookup (Except Failure Json)
  | find name => (Directory.find p (.str name)).run
  | names => (do return .arr (← Directory.names p) : LookupM Json).run

structure Shared where
  directory : Directory
  locked : Bool

/-- Goes on with a look-up up to the next point where it waits. -/
def settle {α : Type} : Program Lookup α → Shared → Program Lookup α × Shared
  | .call .read next, s => settle (next s.directory) s
  | .call (.write d) next, s => settle (next ()) { s with directory := d }
  | .call .release next, s => settle (next ()) { s with locked := false }
  | .call (.log _ _) next, s => settle (next ()) s
  | p, s => (p, s)

/-- A look-up with what is left of it. -/
structure Inquiry where
  question : Question
  rest : Program Lookup (Except Failure Json)

structure Assembly where
  shared : Shared
  inquiries : List Inquiry

def Assembly.start : Assembly :=
  ⟨⟨.empty, false⟩, []⟩

/-- What happens next: a look-up begins, or the one with the given number gets the lock, an outcome
of its loader, or the end of its pause. -/
inductive Turn where
  | ask (q : Question)
  | enter (i : Nat)
  | answer (i : Nat) (outcome : Except Failure Json)
  | wake (i : Nat)

namespace Assembly

def resume (a : Assembly) (i : Nat) (q : Question) (rest : Program Lookup (Except Failure Json)) :
    Assembly :=
  let (rest, shared) := settle rest a.shared
  ⟨shared, a.inquiries.set i ⟨q, rest⟩⟩

/-- The state after a turn, if the turn can be taken. -/
def take (p : Profile) (a : Assembly) : Turn → Option Assembly
  | .ask q => some { a with inquiries := a.inquiries ++ [⟨q, q.program p⟩] }
  | .enter i =>
    match a.inquiries[i]? with
    | some ⟨q, .call .acquire next⟩ =>
      if a.shared.locked then none
      else some (resume { a with shared.locked := true } i q (next ()))
    | _ => none
  | .answer i outcome =>
    match a.inquiries[i]? with
    | some ⟨q, .call .load next⟩ => some (a.resume i q (next outcome))
    | _ => none
  | .wake i =>
    match a.inquiries[i]? with
    | some ⟨q, .call (.sleep _) next⟩ => some (a.resume i q (next ()))
    | _ => none

/-- The state after turns that are taken from the start. -/
def after (p : Profile) (turns : List Turn) : Option Assembly :=
  turns.foldlM (take p) start

end Assembly

end MarketingFlow.Directory
