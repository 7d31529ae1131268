import MarketingFlow.Proofs.Service.Parts
import MarketingFlow.Proofs.Service.Sending

/-!
# The calls of a build through the service

Apart from the creation of the flow itself, a build through the service makes plain calls only: none
that asks for a flow to be created, and no step in the visual builder but one for the re-entry
policy. Other properties of calls that cover what the service is asked, but for that creation, hold
of them as well.
-/

namespace MarketingFlow

namespace World.Call

/-- Whatever is only fetched from the service is among the calls that fulfil `P`. -/
class Fetches (P : World.Call → Prop) : Prop extends Talks P where
  get : ∀ r, r.method = "GET" → P (.send r)

/-- So is the upload of an image, and the reading of its file. -/
class Uploads (P : World.Call → Prop) : Prop extends Fetches P where
  upload : ∀ r, r.method = "POST" → r.path = "/image-upload/" → P (.send r)
  workingDirectory : P .workingDirectory
  look : ∀ path, P (.look path)
  fileBytes : ∀ path, P (.fileBytes path)

/-- So is whatever a build may ask the service for except a new flow. -/
class Serves (P : World.Call → Prop) : Prop extends Uploads P where
  send : ∀ r, ¬ (r.method = "POST" ∧ r.path = "/flows/") → P (.send r)

end World.Call

def World.Call.Plain : World.Call → Prop
  | .send r => ¬ (r.method = "POST" ∧ r.path = "/flows/")
  | .perform s => s.operation = .setReentry
  | _ => True

instance : World.Call.Serves World.Call.Plain where
  log _ _ := trivial
  sleep _ := trivial
  get r h hcreates := absurd (h.symm.trans hcreates.1) (by decide)
  upload r _ h hcreates := absurd (h.symm.trans hcreates.2) (by decide)
  send _ h := h
  workingDirectory := trivial
  look _ := trivial
  fileBytes _ := trivial

open World.Call

variable {σ τ α : Type} {P : World.Call → Prop}

/-! ## Calls of the client -/

namespace Client

variable (c : Client)

theorem calls_send [Talks P] {method path : String} {query : Option Query.Pairs}
    {revision : Option String} {content : Content}
    (h : ∀ r : Request, r.method = method → r.path = path → P (.send r)) :
    (c.send method path query revision content : Task σ Json).Calls P := by
  rw [send]
  refine .bind (.log _ _) fun _ s => ?_
  rw [Task.start_bind]
  cases hr : c.request method path query revision content with
  | error e => trivial
  | ok r =>
    obtain ⟨hmethod, hpath, -⟩ := request_eq_ok hr
    refine Task.Calls.bind (Task.Calls.ask (h r hmethod hpath)) (fun reply => ?_) s
    cases reply with
    | answer status text => grind
    | _ => grind

/-! ### Fetching -/

section

variable [Fetches P]

@[grind ←] theorem plain_send_get {path : String} {query : Option Query.Pairs}
    {revision : Option String} {content : Content} :
    (c.send "GET" path query revision content : Task σ Json).Calls P :=
  c.calls_send fun r hmethod _ => Fetches.get r hmethod

@[grind ←] theorem plain_get {path : String} {revision : Option String} :
    (c.get path revision : Task σ Json).Calls P :=
  c.plain_send_get

@[grind ←] theorem plain_ping : (c.ping : Task σ Unit).Calls P := by
  unfold ping
  grind

@[grind ←] theorem plain_getNamed {address : Json} {revision : Option String} :
    (c.getNamed address revision : Task σ Json).Calls P := by
  unfold getNamed
  grind

@[grind ←] theorem plain_getAll {path : String} {revision : Option String} :
    (c.getAll path revision : Task σ (List Json)).Calls P := by
  unfold getAll
  refine .loop fun x => ?_
  grind

theorem plain_listEntries {path : String} :
    (c.listEntries path : Task σ (List Json)).Calls P := by
  unfold listEntries
  grind

@[grind ←] theorem plain_metrics : (c.metrics : Task σ (List Json)).Calls P :=
  c.plain_listEntries

@[grind ←] theorem plain_lists : (c.lists : Task σ (List Json)).Calls P :=
  c.plain_listEntries

@[grind ←] theorem plain_flowActions {id : Json} :
    (c.flowActions id : Task σ Json).Calls P := by
  unfold flowActions
  grind

@[grind ←] theorem plain_flowActionMessages {id : Json} :
    (c.flowActionMessages id : Task σ Json).Calls P := by
  unfold flowActionMessages
  grind

@[grind ←] theorem plain_templateForMessage {id : Json} :
    (c.templateForMessage id : Task σ Json).Calls P := by
  unfold templateForMessage
  induction c.templateRevisions with
  | nil =>
    unfold templateAt
    grind
  | cons revision rest ih =>
    unfold templateAt
    grind

end

/-! ### Sending -/

@[grind ←] theorem plain_imageFromFile [Uploads P] {file name : Json} :
    (c.imageFromFile file name : Task σ Json).Calls P := by
  have hnamed : (namedFile file : Task σ String).Calls P := by
    unfold namedFile
    split
    · refine .bind (.ofExcept _) fun _ => .bind (.ask Uploads.workingDirectory) fun _ => ?_
      refine .bind (.ask (Uploads.look _)) fun _ => .bind (.ofExcept _) fun _ => ?_
      grind
    · exact .throw _
  unfold imageFromFile
  refine .bind hnamed fun _ => .bind (.log _ _) fun _ => ?_
  exact .bind (.ask (Uploads.fileBytes _)) fun _ => c.calls_send Uploads.upload

variable [Serves P]

theorem plain_send {method path : String} {query : Option Query.Pairs} {revision : Option String}
    {content : Content} (h : ¬ (method = "POST" ∧ path = "/flows/")) :
    (c.send method path query revision content : Task σ Json).Calls P := by
  refine c.calls_send fun r hmethod hpath => Serves.send r ?_
  rw [hmethod, hpath]
  exact h

@[grind ←] theorem plain_send_patch {path : String} {query : Option Query.Pairs}
    {revision : Option String} {content : Content} :
    (c.send "PATCH" path query revision content : Task σ Json).Calls P :=
  c.plain_send (by simp)

@[grind ←] theorem plain_send_post {path : String} {query : Option Query.Pairs}
    {revision : Option String} {content : Content} (h : path ≠ "/flows/") :
    (c.send "POST" path query revision content : Task σ Json).Calls P :=
  c.plain_send (by simp [h])

@[grind ←] theorem plain_createTemplate {name html : Json} :
    (c.createTemplate name html : Task σ Json).Calls P := by
  unfold createTemplate
  grind

@[grind ←] theorem plain_updateTemplate {id html name : Json} :
    (c.updateTemplate id html name : Task σ Json).Calls P := by
  unfold updateTemplate
  grind

end Client

/-! ## Stages of a build -/

namespace Creator

variable (k : Creator)

@[grind ←] theorem plain_call [Talks P] {t : Work α} (h : t.Calls P) (label : String)
    (attempts : Int) : (call t label attempts).Calls P :=
  h.retry

theorem retries_image [Uploads P] (path : String) :
    (Task.Habit.calls P).Retries Email.Uploads.standardRetry
      (k.client.imageFromFile (.str path) .null : Task Unit Json) :=
  Task.Habit.retries_calls k.client.plain_imageFromFile _

theorem retries_metrics [Fetches P] : (Task.Habit.calls P).Retries directoryRetry
    (do return .arr (← k.client.metrics) : Task Unit Json) :=
  Task.Habit.retries_calls (.bind k.client.plain_metrics fun _ => .pure _) _

theorem retries_lists [Fetches P] : (Task.Habit.calls P).Retries directoryRetry
    (do return .arr (← k.client.lists) : Task Unit Json) :=
  Task.Habit.retries_calls (.bind k.client.plain_lists fun _ => .pure _) _

theorem plain_prepare [Uploads P] (content : Json) : (k.prepare content).Calls P :=
  (Task.Habit.calls P).within (Email.Uploads.has_prepare k.retries_image content)

theorem plain_payload [Fetches P] (f : Flow) (templates : TemplateIds) :
    (Payload.ofFlow f (some k.names) k.sender templates).Calls P :=
  Payload.has_ofFlow
    ((NameService.follows_ofLoaders k.retries_metrics k.retries_lists).within _ _).keeps f k.sender
    templates

variable [Serves P]

theorem follows_plain : k.Follows (.calls P) where
  image := k.retries_image
  metrics := k.retries_metrics
  lists := k.retries_lists
  createTemplate _ _ := plain_call k.client.plain_createTemplate
  updateTemplate _ _ _ := plain_call k.client.plain_updateTemplate
  flowActions _ := plain_call k.client.plain_flowActions
  messages _ := plain_call k.client.plain_flowActionMessages
  template _ := k.client.plain_templateForMessage

theorem plain_precreate (f : Flow) : (k.precreate f).Calls P :=
  has_precreate k.follows_plain.keeps f

theorem plain_pass (f : Flow) (flowId : Json) (url : Option String) (pending : Members) :
    (complete.pass k f flowId url pending).Calls P :=
  has_pass k.follows_plain.keeps f flowId url pending

theorem plain_complete (f : Flow) (r : BuildResult) (prepared : Precreation) (flowId : Json) :
    (k.complete f r prepared flowId).Calls P :=
  has_complete k.follows_plain.keeps f r prepared flowId

end Creator

end MarketingFlow
