import MarketingFlow.Proofs.Service.Exchange

/-!
# Refusals

The service refuses the key or the request itself: a failure that will not pass. A call of the
service gives in at once. After a refusal it makes no other call but messages to the journal, no
loop of it goes on, and the refusal is its result. This is a monitor over the calls of the client;
it also sees what kind of requests they make.
-/

namespace MarketingFlow

open Outcome

/-- The key or the request was refused: another attempt will fare no better. -/
def Failure.isPermanent (f : Failure) : Bool :=
  f.remoteKind?.any RemoteKind.permanent

def Event.refusal? : Event World → Option Failure
  | ⟨.send r, .answer status text⟩ =>
    match Client.resultOf (r.method ++ " " ++ r.path) r (.answer status text) with
    | .ok _ => none
    | .error f => if f.isPermanent then some f else none
  | _ => none

def Request.UploadsImage (r : Request) : Prop :=
  r.method = "POST" ∧ r.path = "/image-upload/"

def Request.UploadsNoImage (r : Request) : Prop :=
  ¬ r.UploadsImage

def World.Call.IsLog : World.Call → Prop
  | .log _ _ => True
  | _ => False

/-- An answer that is no success comes to the failure that its status stands for, if not to an
accident. -/
theorem Client.resultOf_eq_error {target text : String} {r : Request} {status : Int} {f : Failure}
    (h : resultOf target r (.answer status text) = .error f) (hf : f.foreseen = true) :
    ∃ message body, f = .ofStatus status message body := by
  rcases bind_eq_error_iff.mp h with hkind | ⟨_, -, h⟩
  · rw [Url.checkKind] at hkind
    dsimp only at hkind
    split at hkind <;> cases hkind
    cases hf
  · split at h
    · rw [(accident_of_readAnswer h).1] at hf
      cases hf
    · rcases bind_eq_error_iff.mp h with hrefusal | ⟨refusal, -, h⟩
      · rw [(accident_of_readRefusal hrefusal).1] at hf
        cases hf
      · cases h
        exact ⟨_, _, rfl⟩

namespace RemoteKind

theorem permanent_ofStatus {status : Int} :
    (ofStatus status).permanent = true ↔ status ∈ [400, 401, 403, 409, 422] := by
  constructor
  · intro h
    rw [ofStatus] at h
    grind [permanent]
  · intro h
    simp only [List.mem_cons, List.not_mem_nil, or_false] at h
    rcases h with rfl | rfl | rfl | rfl | rfl <;> rfl

/-- No name of a passing failure stands in those of a permanent one. -/
theorem not_contains_of_permanent {kind : RemoteKind} (h : kind.permanent = true) {name : String}
    (hname : name ∈ RetryOptions.transient) :
    Text.contains kind.className name = false ∧ Text.contains kind.name name = false := by
  simp only [RetryOptions.transient, List.mem_cons, List.not_mem_nil, or_false] at hname
  cases kind with
  | auth => rcases hname with rfl | rfl | rfl <;> exact ⟨rfl, rfl⟩
  | validation => rcases hname with rfl | rfl | rfl <;> exact ⟨rfl, rfl⟩
  | _ => cases h

end RemoteKind

namespace Event

theorem resultOf_of_refusal {r : Request} {reply : Reply} {f : Failure}
    (h : refusal? ⟨.send r, reply⟩ = some f) :
    Client.resultOf (r.method ++ " " ++ r.path) r reply = .error f ∧ f.isPermanent = true ∧
      ∃ status text message body, reply = .answer status text ∧
        f = .ofStatus status message body := by
  cases reply with
  | answer status text =>
    rw [refusal?] at h
    split at h
    · cases h
    · rename_i f' hf
      split at h
      · rename_i hpermanent
        cases h
        obtain ⟨kind, hkind, -⟩ := (Option.any_eq_true _ _).mp hpermanent
        obtain ⟨message, body, hfailure⟩ :=
          Client.resultOf_eq_error hf (Failure.foreseen_of_remoteKind hkind)
        exact ⟨hf, hpermanent, status, text, message, body, rfl, hfailure⟩
      · cases h
  | _ => cases h

/-- A refusal is a foreseen failure after an answer with one of five statuses. -/
theorem refusal?_eq_some {r : Request} {reply : Reply} {f : Failure} :
    refusal? ⟨.send r, reply⟩ = some f ↔ ∃ status text, reply = .answer status text ∧
      status ∈ [400, 401, 403, 409, 422] ∧ f.foreseen = true ∧
      Client.resultOf (r.method ++ " " ++ r.path) r (.answer status text) = .error f := by
  constructor
  · intro h
    obtain ⟨hf, hpermanent, status, text, message, body, rfl, rfl⟩ := resultOf_of_refusal h
    exact ⟨status, text, rfl, RemoteKind.permanent_ofStatus.mp hpermanent, rfl, hf⟩
  · rintro ⟨status, text, rfl, hstatus, hforeseen, hf⟩
    obtain ⟨message, body, rfl⟩ := Client.resultOf_eq_error hf hforeseen
    rw [refusal?, hf]
    exact if_pos (RemoteKind.permanent_ofStatus.mpr hstatus)

/-- A refusal matches the passing failures by its message only. -/
theorem isRetryable_of_refusal {r : Request} {reply : Reply} {f : Failure}
    (h : refusal? ⟨.send r, reply⟩ = some f) :
    f.isRetryable RetryOptions.transient = true ↔
      ∃ name ∈ RetryOptions.transient, Text.contains f.message name = true := by
  obtain ⟨-, hpermanent, status, text, message, body, -, rfl⟩ := resultOf_of_refusal h
  replace hpermanent : (RemoteKind.ofStatus status).permanent = true := hpermanent
  rw [Failure.isRetryable, Bool.or_eq_true, List.any_eq_true]
  constructor
  · rintro (hempty | ⟨name, hname, h⟩)
    · cases hempty
    · obtain ⟨hclass, hkind⟩ := RemoteKind.not_contains_of_permanent hpermanent hname
      refine ⟨name, hname, ?_⟩
      change (_ || Text.contains (RemoteKind.ofStatus status).className name ||
        (_ && Text.contains (RemoteKind.ofStatus status).name name)) = true at h
      rwa [hclass, hkind, Bool.and_false, Bool.or_false, Bool.or_false] at h
  · rintro ⟨name, hname, h⟩
    exact .inr ⟨name, hname, by simp [h]⟩

end Event

/-! ## Calls that give in -/

namespace Refusal

/-- Before a refusal, all requests fulfil `A`; after it, there are only messages. -/
def allows (A : Request → Prop) : Option Failure → Event World → Prop
  | none, ⟨.send r, _⟩ => A r
  | none, _ => True
  | some _, e => e.call.IsLog

def next : Option Failure → Event World → Option Failure
  | none, e => e.refusal?
  | some f, _ => some f

/-- The monitor that waits for a refusal. After it, no loop goes on. -/
abbrev monitor (A : Request → Prop) : Monitor World :=
  ⟨Option Failure, allows A, next, fun g => g = none⟩

variable {A : Request → Prop}

theorem after_some (f : Failure) (t : List (Event World)) :
    (monitor A).after (some f) t = some f := by
  induction t with
  | nil => rfl
  | cons e t ih => exact ih

theorem ignores_log (level : Level) (text : String) (answer : Unit) :
    (monitor A).Ignores ⟨.log level text, answer⟩ := by
  rintro (_ | f)
  · exact ⟨trivial, rfl⟩
  · exact ⟨trivial, rfl⟩

theorem attentive_monitor : (monitor A).Attentive where
  log level text answer _ := ignores_log level text answer
  response _ answer := ignores_log .debug _ answer

end Refusal

namespace Program

open Refusal

variable {α β : Type} {A : Request → Prop} {p : Program World α} {Q : Option Failure → α → Prop}
  {f : Failure} (h : p.Guards (monitor A) Q (some f))

include h

theorem Guards.of_reaches_done {u : List (Event World)} {a : α} (ha : Reaches p u (.done a)) :
    Q (some f) a := by
  obtain ⟨-, hdone⟩ := h.reaches ha
  rwa [after_some] at hdone

/-- What is left after a refusal ends, as there is an answer to every call. -/
theorem Guards.exists_done : ∃ u a, Reaches p u (.done a) ∧ Q (some f) a := by
  induction p with
  | done a => exact ⟨[], a, .here _, h⟩
  | call c next ih =>
    obtain ⟨u, a, hu, ha⟩ := ih (World.smooth c) (h (World.smooth c)).2
    exact ⟨_, a, .call _ hu, ha⟩
  | loop body s next _ _ => cases h.1

theorem Guards.asks_log_bind {k : α → Program World β}
    (hk : ∀ a, Q (some f) a → (k a).Asks World.Call.IsLog) :
    (p.bind k).Asks World.Call.IsLog := by
  induction p with
  | done a => exact hk a h
  | call c next ih => exact ⟨(h (World.smooth c)).1, fun answer => ih answer (h answer).2 hk⟩
  | loop body s next _ _ => cases h.1

end Program

namespace Task

open Refusal

variable {σ τ α β : Type} {A : Request → Prop}

/-- All requests of the task fulfil `A`, and it gives in to the first refusal. -/
def GivesIn (A : Request → Prop) (t : Task σ α) : Prop :=
  t.Holds (monitor A) (fun g r => ∀ f, g = some f → r = .error f) none

/-- A refused request is the first to be refused, and the task gives in to it. -/
theorem GivesIn.guards_of_refusal {t : Task σ α} (ht : t.GivesIn A) {s : σ}
    {u : List (Event World)} {r : Request} {reply : Reply} {f : Failure}
    {q : Program World (Except Failure α × σ)}
    (h : Program.Reaches (t.start s) (u ++ [⟨.send r, reply⟩]) q)
    (hf : Event.refusal? ⟨.send r, reply⟩ = some f) :
    A r ∧ q.Guards (monitor A) (fun g x => ∀ f, g = some f → x.1 = .error f) (some f) := by
  obtain ⟨haccepts, hguards⟩ := (ht s).reaches h
  obtain ⟨-, hallowed, -⟩ := Monitor.accepts_append.mp haccepts
  cases hbefore : (monitor A).after none u with
  | some g =>
    rw [hbefore] at hallowed
    cases hallowed
  | none =>
    rw [hbefore] at hallowed
    have hrefused : (monitor A).after none (u ++ [⟨.send r, reply⟩]) = some f := by
      rw [Monitor.after_append, hbefore]
      exact hf
    rw [hrefused] at hguards
    exact ⟨hallowed, hguards⟩

@[grind ←] theorem GivesIn.ofExcept (r : Except Failure α) :
    (ofExcept r : Task σ α).GivesIn A := by
  refine Holds.ofExcept ?_
  rintro f ⟨⟩

@[grind ←] theorem GivesIn.pure (a : α) : (pure a : Task σ α).GivesIn A :=
  GivesIn.ofExcept (.ok a)

@[grind ←] theorem GivesIn.throw (e : Failure) : (throw e : Task σ α).GivesIn A :=
  GivesIn.ofExcept (.error e)

@[grind ←] theorem GivesIn.bind {t : Task σ α} {f : α → Task σ β} (h : t.GivesIn A)
    (hf : ∀ a, (f a).GivesIn A) : (t >>= f).GivesIn A := by
  refine Holds.bind h ?_ ?_
  · rintro (_ | failure) a ha
    · exact hf a
    · cases ha failure rfl
  · intro g e he failure hfailure
    cases he failure hfailure
    rfl

@[grind ←] theorem GivesIn.within {t : Task σ α} {part : τ → σ} {replace : τ → σ → τ}
    (h : t.GivesIn A) : (t.within part replace).GivesIn A :=
  Holds.within h

theorem GivesIn.ask {c : World.Call} (h : ∀ r, c ≠ .send r) :
    (ask c : Task σ c.Answer).GivesIn A := by
  intro s answer
  have hnone : Event.refusal? ⟨c, answer⟩ = none := by
    cases c with
    | send r => exact absurd rfl (h r)
    | _ => rfl
  refine ⟨?_, ?_⟩
  · cases c with
    | send r => exact absurd rfl (h r)
    | _ => trivial
  · change ∀ f, Event.refusal? ⟨c, answer⟩ = some f → _
    rw [hnone]
    rintro f ⟨⟩

@[grind ←] theorem GivesIn.log (level : Level) (text : String) :
    (log level text : Task σ Unit).GivesIn A :=
  .ask fun _ => by simp

@[grind ←] theorem GivesIn.loop {body : β → Task σ (β ⊕ α)} {first : β}
    (h : ∀ b, (body b).GivesIn A) : (loop body first).GivesIn A := by
  intro s
  refine ⟨rfl, fun _ g => g = none, rfl, ?_⟩
  rintro ⟨b, s⟩ _ rfl
  refine Program.guards_bind.mpr ((h b s).mono ?_)
  rintro (_ | f) ⟨e | b | a, s⟩ hr
  · rintro f ⟨⟩
  · exact ⟨rfl, rfl⟩
  · rintro f ⟨⟩
  · intro f' hf
    cases hr f' hf
    rfl
  · cases hr f rfl
  · cases hr f rfl

end Task

namespace Client

open Refusal

variable {σ : Type} (c : Client) {A : Request → Prop}

theorem givesIn_send {method path : String} {query : Option Query.Pairs}
    {revision : Option String} {content : Content}
    (hA : ∀ r : Request, r.method = method → r.path = path → A r) :
    (c.send method path query revision content : Task σ Json).GivesIn A := by
  refine holds_send attentive_monitor trivial ?_ ?_
  · rintro e - f ⟨⟩
  · intro r reply hr
    obtain ⟨hmethod, hpath, -⟩ := request_eq_ok hr
    refine ⟨hA r hmethod hpath, fun f hf => ?_⟩
    replace hf : Event.refusal? ⟨.send r, reply⟩ = some f := hf
    rw [← hmethod, ← hpath]
    exact (Event.resultOf_of_refusal hf).1

/-! ## Calls that upload no image -/

@[grind ←] theorem givesIn_get {path : String} {query : Option Query.Pairs}
    {revision : Option String} {content : Content} :
    (c.send "GET" path query revision content : Task σ Json).GivesIn Request.UploadsNoImage :=
  c.givesIn_send fun r hmethod _ => by simp [Request.UploadsNoImage, Request.UploadsImage, hmethod]

@[grind ←] theorem givesIn_patch {path : String} {query : Option Query.Pairs}
    {revision : Option String} {content : Content} :
    (c.send "PATCH" path query revision content : Task σ Json).GivesIn Request.UploadsNoImage :=
  c.givesIn_send fun r hmethod _ => by simp [Request.UploadsNoImage, Request.UploadsImage, hmethod]

@[grind ←] theorem givesIn_post {path : String} {query : Option Query.Pairs}
    {revision : Option String} {content : Content} (h : path ≠ "/image-upload/") :
    (c.send "POST" path query revision content : Task σ Json).GivesIn Request.UploadsNoImage :=
  c.givesIn_send fun r _ hpath => by simp [Request.UploadsNoImage, Request.UploadsImage, hpath, h]

theorem givesIn_ping : (c.ping : Task σ Unit).GivesIn Request.UploadsNoImage := by
  unfold ping
  grind

theorem givesIn_createFlow (payload : Json) :
    (c.createFlow payload : Task σ Json).GivesIn Request.UploadsNoImage := by
  unfold createFlow
  grind

theorem givesIn_createTemplate (name html : Json) :
    (c.createTemplate name html : Task σ Json).GivesIn Request.UploadsNoImage := by
  unfold createTemplate
  grind

theorem givesIn_updateTemplate (id html name : Json) :
    (c.updateTemplate id html name : Task σ Json).GivesIn Request.UploadsNoImage := by
  unfold updateTemplate
  grind

theorem givesIn_flowActions (id : Json) :
    (c.flowActions id : Task σ Json).GivesIn Request.UploadsNoImage := by
  unfold flowActions get
  grind

theorem givesIn_flowActionMessages (id : Json) :
    (c.flowActionMessages id : Task σ Json).GivesIn Request.UploadsNoImage := by
  unfold flowActionMessages get
  grind

@[grind ←] theorem givesIn_getNamed (address : Json) (revision : Option String) :
    (c.getNamed address revision : Task σ Json).GivesIn Request.UploadsNoImage := by
  unfold getNamed get
  grind

theorem givesIn_listEntries (path : String) :
    (c.listEntries path : Task σ (List Json)).GivesIn Request.UploadsNoImage := by
  unfold listEntries getAll
  refine .bind (.loop fun x => ?_) fun _ => .ofExcept _
  grind

theorem givesIn_metrics : (c.metrics : Task σ (List Json)).GivesIn Request.UploadsNoImage :=
  c.givesIn_listEntries _

theorem givesIn_lists : (c.lists : Task σ (List Json)).GivesIn Request.UploadsNoImage :=
  c.givesIn_listEntries _

/-! ## Uploads of images -/

theorem givesIn_imageFromFile (file name : Json) :
    (c.imageFromFile file name : Task σ Json).GivesIn Request.UploadsImage := by
  have hnamed : (namedFile file : Task σ String).GivesIn Request.UploadsImage := by
    unfold namedFile
    split
    · refine .bind (.ofExcept _) fun _ => .bind (.ask fun _ => by simp) fun _ => ?_
      refine .bind (.ask fun _ => by simp) fun _ => .bind (.ofExcept _) fun _ => ?_
      grind
    · exact .throw _
  unfold imageFromFile
  refine .bind hnamed fun _ => .bind (.log _ _) fun _ => .bind (.ask fun _ => by simp) fun _ => ?_
  exact c.givesIn_send fun r hmethod hpath => ⟨hmethod, hpath⟩

end Client

end MarketingFlow
