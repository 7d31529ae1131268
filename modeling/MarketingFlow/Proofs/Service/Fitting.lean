import MarketingFlow.Proofs.Service.Documents
import MarketingFlow.Proofs.Service.Stages

/-!
# Replies that fit

What the service may reply once a flow is there: a refusal or a failure on the way as it likes, but
a success only with a document of the kind that was asked for. A monitor keeps an account of this
from the creation of a flow on, and of the requests that are announced in the journal but never
sent.
-/

namespace MarketingFlow

def Reply.fits (r : Request) : Reply → Bool
  | answer status text =>
    if 200 ≤ status && status ≤ 299 then
      match Client.readAnswer text with
      | .ok document => fitsCall r.method r.path document
      | .error _ => false
    else
      match Client.readRefusal text with
      | .ok _ => true
      | .error _ => false
  | timeout _ => true
  | broken _ => true
  | unwritten _ => false

namespace Event

def isSend : Event World → Bool
  | ⟨.send _, _⟩ => true
  | _ => false

/-- No reply, or one that fits. -/
def fits : Event World → Bool
  | ⟨.send r, (reply : Reply)⟩ => reply.fits r
  | _ => true

/-- No reply, or one that the service could write. -/
def isWritten : Event World → Bool
  | ⟨.send _, .unwritten _⟩ => false
  | _ => true

/-- The journal hears that a request is about to be made. -/
def isAnnouncement : Event World → Bool
  | ⟨.log .debug text, _⟩ => "API request: ".toList.isPrefixOf text.toList
  | _ => false

/-- The id of the flow that is created. -/
def createdId? : Event World → Option String
  | ⟨.send r, .answer status text⟩ =>
    if r.asksForFlow && (200 ≤ status && status ≤ 299) then
      match Client.readAnswer text with
      | .ok document =>
        match (document.member "data").member "id" with
        | .str id => if id.isEmpty then none else some id
        | _ => none
      | .error _ => none
    else none
  | _ => none

end Event

/-- Every request that was announced was sent and got a reply that fits. -/
def Fitting (t : List (Event World)) : Prop :=
  (∀ e ∈ t, e.fits = true) ∧ t.countP Event.isAnnouncement = t.countP Event.isSend

/-! ## The account -/

/-- What there is to know about the time since a flow was created. -/
structure Account where
  id : String
  /-- How many requests were announced but not sent. -/
  unsent : Int
  fit : Bool
  written : Bool

namespace Account

def add (a : Account) (e : Event World) : Account :=
  { a with
    unsent := a.unsent + (if e.isAnnouncement then 1 else 0) - (if e.isSend then 1 else 0)
    fit := a.fit && e.fits
    written := a.written && e.isWritten }

/-- Nothing has come up that would end a build. -/
def Sound (a : Account) : Prop :=
  a.unsent = 0 ∧ a.fit = true

def next : Option Account → Event World → Option Account
  | none, e => e.createdId?.map fun id => ⟨id, 0, e.fits, true⟩
  | some a, e => some (a.add e)

def allows : Option Account → Event World → Prop
  | none, _ => True
  | some _, e => e.createdId? = none

/-- The monitor that opens an account when a flow is created. It lets no other flow be created. -/
abbrev monitor : Monitor World :=
  ⟨Option Account, allows, next, fun g => g = none⟩

theorem after_some (a : Account) (t : List (Event World)) :
    monitor.after (some a) t = some
      { id := a.id
        unsent := a.unsent + t.countP Event.isAnnouncement - t.countP Event.isSend
        fit := a.fit && t.all Event.fits
        written := a.written && t.all Event.isWritten } := by
  induction t generalizing a with
  | nil => simp
  | cons e t ih =>
    rw [Monitor.after_cons]
    change monitor.after (some (a.add e)) t = _
    rw [ih]
    simp only [add, List.all_cons, Bool.and_assoc, List.countP_cons]
    congr 2
    split <;> split <;> omega

theorem ignores {e : Event World} (ha : e.isAnnouncement = false) (hs : e.isSend = false) :
    monitor.Ignores e := by
  have hcreated : e.createdId? = none := by
    obtain ⟨_ | _, _⟩ := e <;> first | rfl | cases hs
  have hfits : e.fits = true := by
    obtain ⟨_ | _, _⟩ := e <;> first | rfl | cases hs
  have hwritten : e.isWritten = true := by
    obtain ⟨_ | _, _⟩ := e <;> first | rfl | cases hs
  rintro (_ | a)
  · exact ⟨trivial, by simp [next, hcreated]⟩
  · exact ⟨hcreated, by simp [next, add, ha, hs, hfits, hwritten]⟩

theorem discreet_monitor : monitor.Discreet where
  log level text answer h := by
    refine ignores ?_ rfl
    cases level <;> first | rfl | exact absurd rfl h
  response text answer := by
    refine ignores ?_ rfl
    simp only [Event.isAnnouncement, String.toList_append]
    rfl
  sleep _ _ := ignores rfl rfl

/-- Another message of the least importance. -/
theorem ignores_debug {text : String} (h : ∃ c rest, text.toList = c :: rest ∧ c ≠ 'A')
    (answer : Unit) : monitor.Ignores ⟨.log .debug text, answer⟩ := by
  obtain ⟨c, rest, htext, hc⟩ := h
  refine ignores ?_ rfl
  change "API request: ".toList.isPrefixOf text.toList = false
  have hstart : "API request: ".toList = 'A' :: "PI request: ".toList := rfl
  rw [htext, hstart, List.isPrefixOf, Bool.and_eq_false_iff]
  left
  simpa using hc.symm

theorem createdId?_of_plain {c : World.Call} (h : c.Plain) (answer : World.Answer c) :
    Event.createdId? ⟨c, answer⟩ = none := by
  cases c with
  | send r =>
    cases answer with
    | answer status text =>
      rw [Event.createdId?, Request.not_asksForFlow_of_plain h]
      rfl
    | _ => rfl
  | _ => rfl

theorem keeps_plain : monitor.Keeps World.Call.Plain none :=
  fun c answer h => ⟨trivial, by simp [next, createdId?_of_plain h answer]⟩

end Account

end MarketingFlow
