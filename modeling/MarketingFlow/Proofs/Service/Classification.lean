import MarketingFlow.Proofs.Interaction.Persistence
import MarketingFlow.Proofs.Json.Depth
import MarketingFlow.Proofs.Service.Answers
import MarketingFlow.Proofs.Service.Stages

/-!
# How failures are named and followed up

Every reply but a success signals one kind of failure, by its status alone. The kind is what comes
of the request whatever the body of the answer is, with one exception: a body that goes too deep is
an accident, which is not retried. Under the options that retry what may pass, a failure of such a
kind is followed by another call, as long as the pause before it can be computed.
-/

namespace MarketingFlow

open Outcome

namespace Client

variable {σ : Type} {c : Client} {method path target : String} {query : Option Query.Pairs}
  {revision : Option String} {content : Content} {r : Request} {reply : Reply}
  {kind : RemoteKind} {f : Failure}

/-! ## The kinds of replies -/

/-- A reply that is no success, and the kind of failure that it signals. -/
inductive Signals : Reply → RemoteKind → Prop where
  | denied {status : Int} (text : String) (h : status = 401 ∨ status = 403) :
    Signals (.answer status text) .auth
  | invalid {status : Int} (text : String) (h : status = 400 ∨ status = 409 ∨ status = 422) :
    Signals (.answer status text) .validation
  | limited (text : String) : Signals (.answer 429 text) .rateLimited
  | outage {status : Int} (text : String) (h : 500 ≤ status) : Signals (.answer status text) .server
  | other {status : Int} (text : String) (h : status < 200 ∨ 299 < status ∧ status < 500)
    (hother : status ∉ [400, 401, 403, 409, 422, 429]) : Signals (.answer status text) .other
  | timeout (message : String) : Signals (.timeout message) .network
  | broken (message : String) : Signals (.broken message) .network

theorem signals_answer_iff {status : Int} {text : String} :
    Signals (.answer status text) kind ↔
      (status < 200 ∨ 299 < status) ∧ kind = .ofStatus status := by
  constructor
  · intro h
    cases h <;> grind [RemoteKind.ofStatus]
  · rintro ⟨hrange, rfl⟩
    rw [RemoteKind.ofStatus]
    split
    next h => exact .denied text (by simpa using h)
    next hdenied =>
      split
      next h => exact .invalid text (by simpa [or_assoc] using h)
      next hinvalid =>
        split
        next h => exact h ▸ .limited text
        next hlimited =>
          split
          next h => exact .outage text h
          next houtage => exact .other text (by omega) (by grind)

theorem Signals.unique {kind' : RemoteKind} (h : Signals reply kind) (h' : Signals reply kind') :
    kind = kind' := by
  cases reply with
  | answer status text =>
    exact (signals_answer_iff.mp h).2.trans (signals_answer_iff.mp h').2.symm
  | timeout message => cases h; cases h'; rfl
  | broken message => cases h; cases h'; rfl
  | unwritten e => cases h

/-- The text of an answer goes deeper than answers are read. -/
def IsTooDeep (text : String) : Prop :=
  ∃ kind, Json.readBytes (Text.spell text).toUTF8 = .error { cause := .tooDeep kind }

/-- An answer that can be taken in: its address says how it was reached, and its text does not go
too deep. Of the other replies nothing has to be taken in. -/
def Takes (r : Request) : Reply → Prop
  | .answer _ text => r.url.checkKind = .ok () ∧ ¬IsTooDeep text
  | _ => True

end Client

end MarketingFlow
