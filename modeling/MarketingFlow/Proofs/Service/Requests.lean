import MarketingFlow.Proofs.Http.Body
import MarketingFlow.Proofs.Interaction.Exchanges
import MarketingFlow.Proofs.Service.Exchange

/-!
# What the calls of the service ask for

A call of the service, with all its attempts, sends requests of one kind only. If it succeeds, the
last of them was answered with a document; if it fails without any request, the failure is an
accident.
-/

namespace MarketingFlow

open Outcome

/-! ## Answers -/

/-- The document of an answer that is a success. -/
def Exchange.document? (e : Exchange) : Option Json :=
  match e.reply with
  | .answer status text =>
    if 200 ≤ status && status ≤ 299 then (Client.readAnswer text).toOption else none
  | _ => none

theorem Exchange.document?_of_resultOf {r : Request} {reply : Reply} {target : String} {v : Json}
    (h : Client.resultOf target r reply = .ok v) : Exchange.document? ⟨r, reply⟩ = some v := by
  cases reply with
  | answer status text =>
    obtain ⟨_, -, h⟩ := bind_eq_ok_iff.mp h
    rw [document?]
    split at h
    · dsimp only
      rw [if_pos ‹_›, h]
      rfl
    · obtain ⟨_, -, h⟩ := bind_eq_ok_iff.mp h
      cases h
  | _ => cases h

theorem Exchange.isSuccess_of_document? {e : Exchange} {v : Json} (h : e.document? = some v) :
    e.reply.isSuccess = true := by
  rw [document?] at h
  split at h
  · rename_i status text hreply
    rw [hreply, Reply.isSuccess]
    split at h
    · assumption
    · cases h
  · cases h

theorem RetryOptions.unforeseen_delayAfter (o : RetryOptions Number) (n : Int) :
    Unforeseen (o.delayAfter n) := by
  have htoFloat : ∀ a : Number, Unforeseen a.toFloat := by
    intro a
    unfold Number.toFloat
    split
    · exact .ok _
    · dsimp only
      split
      · exact .error rfl
      · exact .ok _
  have hmul : ∀ a b : Number, Unforeseen (a.mul b) := by
    intro a b
    unfold Number.mul
    split
    · exact .ok _
    · exact (htoFloat _).bind fun _ => (htoFloat _).bind fun _ => .ok _
  have hpow : Unforeseen (o.backoffFactor.pow (n - 1)) := by
    unfold Number.pow
    split
    · exact .ok _
    · refine (htoFloat _).bind fun _ => ?_
      split
      · exact .ok _
      · split
        · exact .ok _
        · refine (htoFloat _).bind fun _ => ?_
          split
          · exact .error rfl
          · dsimp only
            split
            · exact .error rfl
            · exact .ok _
  exact (hpow.bind fun _ => hmul _ _).bind fun _ => .ok _

/-! ## Requests of one kind -/

variable {σ α β : Type} {A B : Request → Prop} {R : Exchange → α → Prop} {S : Exchange → β → Prop}

def Asked (A : Request → Prop) (R : Exchange → α → Prop) (x : List Exchange) :
    Except Failure α → Prop
  | .ok a => ∃ before e, x = before ++ [e] ∧ (∀ b ∈ before, A b.request) ∧ A e.request ∧ R e a
  | .error f => (∀ e ∈ x, A e.request) ∧ (x = [] → f.foreseen = false)

theorem Asked.mono {R' : Exchange → α → Prop} {x : List Exchange} {r : Except Failure α}
    (h : Asked A R x r) (hAB : ∀ q, A q → B q) (hR : ∀ e a, R e a → R' e a) : Asked B R' x r := by
  cases r with
  | ok a =>
    obtain ⟨before, e, rfl, hbefore, he, ha⟩ := h
    exact ⟨before, e, rfl, fun b hb => hAB _ (hbefore b hb), hAB _ he, hR e a ha⟩
  | error f => exact ⟨fun e he => hAB _ (h.1 e he), h.2⟩

theorem Asked.forall_mem {x : List Exchange} {r : Except Failure α} (h : Asked A R x r) :
    ∀ e ∈ x, A e.request := by
  cases r with
  | ok a =>
    obtain ⟨before, e, rfl, hbefore, he, -⟩ := h
    exact List.forall_mem_append.mpr ⟨hbefore, by simpa using he⟩
  | error f => exact h.1

theorem Asked.ne_nil {x : List Exchange} {r : Except Failure α} (h : Asked A R x r)
    (hr : Task.Foreseen r) : x ≠ [] := by
  cases r with
  | ok a =>
    obtain ⟨before, e, rfl, -⟩ := h
    simp
  | error f =>
    intro hx
    have hunforeseen := h.2 hx
    rw [show f.foreseen = true from hr f rfl] at hunforeseen
    cases hunforeseen

namespace Task

/-- Nothing is exchanged, and a result fulfils `p`. -/
def Quiet (t : Task σ α) (p : α → Prop) : Prop :=
  t.Ensures fun x r => x = [] ∧ ∀ a, r = .ok a → p a

theorem Quiet.pure {p : α → Prop} {a : α} (h : p a) : (pure a : Task σ α).Quiet p := by
  refine Ensures.pure ⟨rfl, ?_⟩
  rintro _ ⟨rfl⟩
  exact h

theorem Quiet.ofExcept_bind {p : β → Prop} {r : Except Failure α} {f : α → Task σ β}
    (h : ∀ a, r = .ok a → (f a).Quiet p) : (Task.ofExcept r >>= f).Quiet p := by
  refine Ensures.ofExcept_bind h fun e _ => ⟨rfl, ?_⟩
  rintro a ⟨⟩

theorem Quiet.log_bind {p : α → Prop} {level : Level} {text : String} {f : Unit → Task σ α}
    (h : (f ()).Quiet p) : (Task.log level text >>= f).Quiet p :=
  Ensures.quiet_bind fun _ => h

theorem Ensures.asked_bind {t : Task σ α} {f : α → Task σ β} (h : t.Ensures (Asked A R))
    (hf : ∀ e a, R e a → (f a).Quiet (S e)) : (t >>= f).Ensures (Asked A S) := by
  refine h.bind ?_ fun _ _ he => he
  rintro _ a ⟨before, e, rfl, hbefore, he, ha⟩
  refine (hf e a ha).mono ?_
  rintro _ (f | b) ⟨rfl, hb⟩
  · rw [List.append_nil]
    exact ⟨List.forall_mem_append.mpr ⟨hbefore, by simpa using he⟩, by simp⟩
  · rw [List.append_nil]
    exact ⟨before, e, rfl, hbefore, he, hb b rfl⟩

end Task

theorem Creator.ensures_call {t : Creator.Work α} (h : t.Ensures (Asked A R)) (label : String)
    (attempts : Int) : (Creator.call t label attempts).Ensures (Asked A R) := by
  refine Task.Ensures.retry (A := fun x => ∀ e ∈ x, A e.request) h (by simp) ?_ ?_ ?_ ?_
  · rintro x _ a hx ⟨before, e, rfl, hbefore, he, ha⟩
    have hall := List.forall_mem_append.mpr ⟨hx, hbefore⟩
    exact ⟨x ++ before, e, (List.append_assoc ..).symm, hall, he, ha⟩
  · rintro x y e hx ⟨hy, -⟩
    exact List.forall_mem_append.mpr ⟨hx, hy⟩
  · rintro x y e note hx ⟨hy, he⟩
    exact ⟨List.forall_mem_append.mpr ⟨hx, hy⟩, fun hnil => he (List.append_eq_nil_iff.mp hnil).2⟩
  · rintro x y e e' n hx ⟨hy, -⟩ hdelay
    refine ⟨List.forall_mem_append.mpr ⟨hx, hy⟩, fun _ => ?_⟩
    exact RetryOptions.unforeseen_delayAfter _ n e' hdelay

/-! ## Calls of the client -/

/-- The text that a request carries for a template. -/
def Request.html (r : Request) : Json :=
  match r.body with
  | .json v => ((v.member "data").member "attributes").member "html"
  | _ => .null

/-- Asks for the actions of a flow. -/
def Request.ListsActions (flowId : Json) (r : Request) : Prop :=
  r.method = "GET" ∧ r.path = "/flows/" ++ flowId.text ++ "/flow-actions/"

/-- Asks for the messages of an action. -/
def Request.FetchesMessages (actionId : Json) (r : Request) : Prop :=
  r.method = "GET" ∧ r.path = "/flow-actions/" ++ actionId.text ++ "/flow-messages/"

/-- Asks for the template of some message. -/
def Request.FetchesTemplate (r : Request) : Prop :=
  r.method = "GET" ∧ ∃ id, r.path = "/flow-messages/" ++ id ++ "/template/"

/-- Creates a template. -/
def Request.CreatesTemplate (r : Request) : Prop :=
  r.method = "POST" ∧ r.path = "/templates/"

/-- Creates a template, or updates one. -/
def Request.WritesTemplate (r : Request) : Prop :=
  r.method = "POST" ∧ r.path = "/templates/" ∨
    r.method = "PATCH" ∧ ∃ id, r.path = "/templates/" ++ id ++ "/"

/-- Creates a flow. -/
def Request.CreatesFlow (r : Request) : Prop :=
  r.method = "POST" ∧ r.path = "/flows/"

namespace Client

variable (c : Client) {method path : String} {revision : Option String} {content : Content}

theorem toBody_of_request {r : Request} (h : c.request method path none revision content = .ok r) :
    content.toBody = .ok r.body := by
  rw [request] at h
  simp only [bind_eq_ok_iff] at h
  obtain ⟨_, -, _, -, body, hbody, _, -, _, -, h⟩ := h
  cases h
  exact hbody

theorem body_of_toBody {v : Json} {body : RequestBody} (h : (Content.document v).toBody = .ok body)
    (hv : v ≠ .null) : body = .json v := by
  rw [Content.toBody_of_ne_null hv] at h
  split at h
  · cases h
  · cases hencoding : Failure.checkEncoding .utf8 (v.write .sent) with
    | error e =>
      rw [hencoding] at h
      cases h
    | ok =>
      rw [hencoding] at h
      cases h
      rfl

theorem ensures_send (h : Unforeseen content.toBody) :
    (c.send method path none revision content : Task σ Json).Ensures
      (Asked (fun r => c.request method path none revision content = .ok r)
        fun e v => e.document? = some v) := by
  intro x
  refine holds_send discreet_recorder.toAttentive trivial ?_ ?_
  · intro e he
    refine ⟨[], rfl, by simp, fun _ => ?_⟩
    exact unforeseen_request h e he
  · intro r reply hr
    refine ⟨trivial, [⟨r, reply⟩], ?_, ?_⟩
    · change x ++ [] ++ [_] = _
      rw [List.append_nil]
    · cases hresult : resultOf (method ++ " " ++ path) r reply with
      | ok v => exact ⟨[], _, rfl, by simp, hr, Exchange.document?_of_resultOf hresult⟩
      | error e => exact ⟨by simp [hr], fun hnil => absurd hnil (by simp)⟩

theorem ensures_get (path : String) (revision : Option String) :
    (c.get path revision : Task σ Json).Ensures
      (Asked (fun r => r.method = "GET" ∧ r.path = path) fun e v => e.document? = some v) := by
  refine (c.ensures_send (.ok _)).mono fun _ _ h => h.mono ?_ fun _ _ => id
  intro r hr
  obtain ⟨hmethod, hpath, -⟩ := request_eq_ok hr
  exact ⟨hmethod, hpath⟩

theorem ensures_flowActions (flowId : Json) :
    (c.flowActions flowId : Task σ Json).Ensures
      (Asked (Request.ListsActions flowId) fun e v =>
        ∃ document, e.document? = some document ∧ (document.member "data").orNone = v) := by
  rw [flowActions]
  refine (c.ensures_get _ _).asked_bind ?_
  intro e document hdocument
  refine .ofExcept_bind fun data hdata => .ofExcept_bind fun _ _ => .log_bind (.pure ?_)
  obtain ⟨-, rfl⟩ := Json.get_eq_ok_iff.mp hdata
  exact ⟨document, hdocument, rfl⟩

theorem ensures_flowActionMessages (actionId : Json) :
    (c.flowActionMessages actionId : Task σ Json).Ensures
      (Asked (Request.FetchesMessages actionId) fun _ _ => True) := by
  rw [flowActionMessages]
  refine (c.ensures_get _ _).asked_bind fun _ _ _ => ?_
  exact .ofExcept_bind fun _ _ => .pure trivial

theorem ensures_createTemplate_post (name html : Json) :
    (c.createTemplate name html : Task σ Json).Ensures
      (Asked (fun r => r.CreatesTemplate ∧ r.html = html) fun e _ => e.reply.isSuccess = true) := by
  rw [createTemplate]
  refine .quiet_bind fun _ => ?_
  refine Task.Ensures.asked_bind (R := fun e _ => e.reply.isSuccess = true)
    ((c.ensures_send (Content.unforeseen_toBody_document _)).mono fun _ _ h => h.mono ?_ ?_) ?_
  · intro r hr
    obtain ⟨hmethod, hpath, -⟩ := request_eq_ok hr
    refine ⟨⟨hmethod, hpath⟩, ?_⟩
    rw [Request.html, body_of_toBody (c.toBody_of_request hr) (by simp)]
    rfl
  · exact fun _ _ => Exchange.isSuccess_of_document?
  · exact fun _ _ he => .ofExcept_bind fun _ _ => .log_bind (.pure he)

theorem ensures_createTemplate (name html : Json) :
    (c.createTemplate name html : Task σ Json).Ensures
      (Asked (fun r => r.WritesTemplate ∧ r.html = html) fun e _ => e.reply.isSuccess = true) :=
  (c.ensures_createTemplate_post name html).mono fun _ _ h =>
    h.mono (fun _ hr => ⟨.inl hr.1, hr.2⟩) fun _ _ => id

theorem ensures_updateTemplate (id html : Json) :
    (c.updateTemplate id html .null : Task σ Json).Ensures
      (Asked (fun r => r.WritesTemplate ∧ r.html = html) fun e _ => e.reply.isSuccess = true) := by
  rw [updateTemplate]
  refine .quiet_bind fun _ => ?_
  refine (c.ensures_send (Content.unforeseen_toBody_document _)).mono fun _ _ h => h.mono ?_ ?_
  · intro r hr
    obtain ⟨hmethod, hpath, -⟩ := request_eq_ok hr
    refine ⟨.inr ⟨hmethod, id.text, hpath⟩, ?_⟩
    rw [Request.html, body_of_toBody (c.toBody_of_request hr) (by simp)]
    rfl
  · exact fun _ _ => Exchange.isSuccess_of_document?

theorem ensures_createFlow_payload (payload : Json) :
    (c.createFlow payload : Task σ Json).Ensures
      (Asked (fun r => r.CreatesFlow ∧ (payload ≠ .null → r.body = .json payload))
        fun e _ => e.reply.isSuccess = true) := by
  rw [createFlow]
  refine .quiet_bind fun _ => ?_
  refine Task.Ensures.asked_bind (R := fun e _ => e.reply.isSuccess = true)
    ((c.ensures_send (Content.unforeseen_toBody_document _)).mono fun _ _ h => h.mono ?_ ?_) ?_
  · intro r hr
    obtain ⟨hmethod, hpath, -⟩ := request_eq_ok hr
    exact ⟨⟨hmethod, hpath⟩, body_of_toBody (c.toBody_of_request hr)⟩
  · exact fun _ _ => Exchange.isSuccess_of_document?
  · intro _ _ he
    refine .ofExcept_bind fun _ _ => .ofExcept_bind fun _ _ => .ofExcept_bind fun _ _ => ?_
    exact .log_bind (.pure he)

theorem ensures_createFlow (payload : Json) :
    (c.createFlow payload : Task σ Json).Ensures
      (Asked Request.CreatesFlow fun e _ => e.reply.isSuccess = true) :=
  (c.ensures_createFlow_payload payload).mono fun _ _ h => h.mono (fun _ => And.left) fun _ _ => id

theorem ensures_templateAt (messageId : Json) (revisions : List String) :
    (c.templateAt messageId revisions : Task σ Json).Ensures fun x _ =>
      ∀ e ∈ x, e.request.FetchesTemplate := by
  induction revisions with
  | nil =>
    rw [templateAt]
    exact .quiet_bind fun _ => .pure (by simp)
  | cons revision rest ih =>
    have hget : (c.get ("/flow-messages/" ++ messageId.text ++ "/template/") (some revision) :
        Task σ Json).Ensures fun x _ => ∀ e ∈ x, e.request.FetchesTemplate := by
      refine (c.ensures_get _ _).mono fun x _ h e he => ?_
      obtain ⟨hmethod, hpath⟩ := h.forall_mem e he
      exact ⟨hmethod, messageId.text, hpath⟩
    rw [templateAt]
    refine .result_bind hget ?_
    rintro x (f | response) hx
    · dsimp only
      split
      · exact .throw (by simpa using hx)
      · refine .quiet_bind fun _ => ih.mono fun y _ hy => List.forall_mem_append.mpr ⟨hx, hy⟩
      · exact .throw (by simpa using hx)
    · dsimp only
      refine .ofExcept_bind (fun id _ => ?_) fun _ _ => by simpa using hx
      split
      · exact .quiet_bind fun _ => .pure (by simpa using hx)
      · exact ih.mono fun y _ hy => List.forall_mem_append.mpr ⟨hx, hy⟩

end Client

end MarketingFlow
