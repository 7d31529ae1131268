import MarketingFlow.Proofs.Http.Body
import MarketingFlow.Proofs.Service.ContentPass

/-!
# A created flow is kept

Once a flow is created, a build through the service ends, and it ends with a result that names the
flow as long as the service replies with what it is asked for and every request can be sent. In
exactly the other cases an accident ends the build, and with it the id of the flow is lost.
-/

namespace MarketingFlow

open Account Outcome

variable {σ : Type} {id : String}

theorem Event.createdId?_eq_some {e : Event World} (h : e.createdId? = some id) :
    ∃ r status text document, e = ⟨.send r, .answer status text⟩ ∧ r.asksForFlow = true ∧
      (200 ≤ status && status ≤ 299) = true ∧ Client.readAnswer text = .ok document ∧
        (document.member "data").member "id" = .str id := by
  obtain ⟨c, answer⟩ := e
  cases c with
  | send r =>
    cases answer with
    | answer status text =>
      rw [createdId?] at h
      split at h
      · rename_i hasks
        obtain ⟨hasks, hsuccess⟩ := Bool.and_eq_true_iff.mp hasks
        split at h
        · rename_i document hdocument
          split at h
          · rename_i id' hid
            split at h
            · cases h
            · cases h
              exact ⟨r, status, text, document, rfl, hasks, hsuccess, hdocument, hid⟩
          · cases h
        · cases h
      · cases h
    | _ => cases h
  | _ => cases h

namespace Client

variable {c : Client}

/-- What the request for a flow comes to: nothing, or the document of a flow. The account is sound
if and only if the document can be read to its end. -/
def Sent (c : Client) (s : Option Account) (r : Except Failure Json) : Prop :=
  s = none ∨ c.Reached ∧ ∃ id document, r = .ok document ∧
    (document.member "data").member "id" = .str id ∧
      Watched id (fun a => a.Sound ↔ document.holdsFlow = true) s

/-- What an attempt to create the flow comes to: nothing, a flow, or a flow and an accident. -/
def Created (c : Client) (s : Option Account) (r : Except Failure Json) : Prop :=
  s = none ∨ c.Reached ∧ ∃ id, match r with
    | .ok answer => Watched id Sound s ∧ Creator.createdId answer = .ok (.str id)
    | .error e => Watched id (fun a => ¬ a.Sound) s ∧ e.Accident

theorem sent_of_request (hc : c.HasKind) {payload : Json} {r : Request} {reply : Reply}
    (hr : c.request "POST" "/flows/" none none (.document payload) = .ok r) :
    c.Sent (Account.next none ⟨.send r, reply⟩) (resultOf "POST /flows/" r reply) := by
  have hpath : ∃ cs, "/flows/".toList = '/' :: cs := ⟨_, rfl⟩
  obtain ⟨hmethod, hpathr, -⟩ := request_eq_ok hr
  rw [Account.next]
  cases hcreated : Event.createdId? ⟨.send r, reply⟩ with
  | none => exact .inl rfl
  | some id =>
    obtain ⟨r', status, text, document, heq, hasks, hsuccess, hdocument, hid⟩ :=
      Event.createdId?_eq_some hcreated
    cases heq
    have hreached : c.Reached :=
      ⟨hc, base_scheme_ne_nil hpath hr (Request.scheme_ne_nil_of_asksForFlow hasks)⟩
    have hkind := hreached.kind.checkKind hreached.scheme hpath hr
    have hresult : resultOf "POST /flows/" r (.answer status text) = .ok document := by
      rw [resultOf, hkind, ok_bind, if_pos hsuccess, hdocument]
    refine .inr ⟨hreached, id, document, hresult, hid, _, rfl, rfl, fun _ => ?_⟩
    have hfits : Event.fits ⟨.send r, .answer status text⟩ = document.holdsFlow := by
      change Reply.fits r (.answer status text) = _
      rw [fits_of_resultOf_ok hresult, hmethod, hpathr, fitsCall, if_neg (by decide), if_pos rfl,
        if_pos rfl]
    simp [Sound, hfits]

theorem holds_createFlow_account (hc : c.HasKind) (payload : Json) :
    (c.createFlow payload : Task σ Json).Holds monitor c.Created none := by
  rw [createFlow]
  refine .log_bind discreet_monitor ?_
  refine (holds_send (Q := c.Sent) discreet_monitor.toAttentive ?_ ?_ ?_).bind ?_ ?_
  · trivial
  · exact fun e _ => .inl rfl
  · exact fun r reply hr => ⟨trivial, sent_of_request hc hr⟩
  · rintro s document (rfl | ⟨hreached, id, _, ⟨rfl⟩, hid, hs⟩)
    · refine .ofExcept_bind (fun data _ => ?_) fun e _ => .inl rfl
      refine .ofExcept_bind (fun id _ => ?_) fun e _ => .inl rfl
      refine .ofExcept_bind (fun name _ => ?_) fun e _ => .inl rfl
      exact .log_bind discreet_monitor (.pure (.inl rfl))
    · have hdata : document.get "data" = .ok (document.member "data") :=
        Json.get_eq_ok_iff.mpr ⟨Json.isObject_document hid, rfl⟩
      have hobject : (document.member "data").orEmpty.isObject = true := by
        rw [Json.isObject_orEmpty, Json.isRecord_of_isObject (Json.isObject_data hid)]
      rw [hdata]
      refine .ofExcept_bind (fun data hd => ?_) fun e he => by cases he
      cases hd
      refine .ofExcept_bind (fun id' _ => ?_) fun e he => ?_
      · refine .ofExcept_bind (fun name hname => ?_) fun e he => ?_
        · obtain ⟨-, hattributes, -⟩ := Json.get_get_eq_ok_iff.mp hname
          rw [Json.member_orEmpty] at hattributes
          have hflow := (Json.holdsFlow_iff hid).mpr hattributes
          refine .log_bind discreet_monitor (.pure (.inr ⟨hreached, id, ?_, Json.createdId_eq hid⟩))
          exact hs.imp fun a ha => ha.mpr hflow
        · refine .inr ⟨hreached, id, hs.imp fun a ha hsound => ?_, Failure.accident_of_get_get he⟩
          have hattributes := (Json.holdsFlow_iff hid).mp (ha.mp hsound)
          rw [← Json.member_orEmpty] at hattributes
          rw [Json.get_get_eq_ok_iff.mpr ⟨hobject, hattributes, rfl⟩] at he
          cases he
      · rw [Json.get_eq_ok_iff.mpr ⟨hobject, rfl⟩] at he
        cases he
  · rintro s e (rfl | ⟨-, id, document, h, -⟩)
    · exact .inl rfl
    · cases h

end Client

namespace Creator

variable {k : Creator}

/-- What the creation comes to after all attempts. -/
def Opened (k : Creator) (s : Option Account) (r : Except Failure Json) : Prop :=
  s = none ∨ k.client.Reached ∧ ∃ id, match r with
    | .ok flowId => Watched id Sound s ∧ flowId = .str id
    | .error e => Watched id (fun a => ¬ a.Sound) s ∧ e.foreseen = false

/-- What a build comes to: nothing, a result that names the flow, or an accident. -/
def Concluded (s : Option Account) (r : Except Failure BuildResult) : Prop :=
  s = none ∨ ∃ id, match r with
    | .ok result => Watched id Sound s ∧ result.success = true ∧ result.flowId = .str id ∧
        result.errors = []
    | .error e => Watched id (fun a => ¬ a.Sound) s ∧ e.foreseen = false

theorem holds_create_account (hc : k.client.HasKind) (creation : Payload.Creation) :
    (k.create creation).Holds monitor k.Opened none := by
  rw [create]
  refine (Task.Holds.retry (A := fun s => s = none) (P := k.client.Created)
    (Q := fun s r => k.client.Created s r) discreet_monitor ?_ ?_ ?_ ?_ ?_ rfl).bind ?_ ?_
  · rintro _ rfl
    exact Client.holds_createFlow_account hc _
  · exact fun _ _ h => h
  · rintro s e (hs | ⟨-, id, -, -, he⟩) hretryable
    · exact hs
    · exact absurd hretryable (Bool.eq_false_iff.mp he)
  · exact fun _ _ _ h => h
  · rintro s e e' n (hs | ⟨-, id, -, -, he⟩) hretryable - - -
    · exact .inl hs
    · exact absurd hretryable (Bool.eq_false_iff.mp he)
  · rintro s answer (hs | ⟨hreached, id, hs, hid⟩)
    · exact .ofExcept (.inl hs)
    · rw [hid]
      exact .ofExcept (.inr ⟨hreached, id, hs, rfl⟩)
  · rintro s e (hs | ⟨hreached, id, hs, he, -⟩)
    · exact .inl hs
    · exact .inr ⟨hreached, id, hs, he⟩

theorem holds_fail_account {s : Option Account} {e : Failure} (h : k.Opened s (.error e))
    (r : BuildResult) : (fail r e).Holds monitor Concluded s := by
  rcases h with rfl | ⟨-, id, hs, he⟩
  · exact holds_fail discreet_monitor fun _ => .inl rfl
  · rw [fail, he]
    exact .throw (.inr ⟨id, hs, he⟩)

theorem holds_build_account (f : Flow) : (k.build f).Holds monitor Concluded none := by
  refine holds_build (P := k.Opened) discreet_monitor keeps_plain rfl (fun _ => .inl rfl)
    holds_create_account (fun s e r h => holds_fail_account h r) ?_
  rintro s flowId r prepared (rfl | ⟨hreached, id, hs, rfl⟩) hr htraverse
  · refine holds_complete (K := fun s => s = none) discreet_monitor (fun url pending => ?_) ?_ rfl
    · refine ((k.plain_pass f flowId url pending).holds_of_keeps keeps_plain rfl).mono ?_
      rintro _ (e | outcome) rfl
      · exact .inl rfl
      · rfl
    · rintro _ result rfl - - -
      exact .inl rfl
  · refine holds_complete (K := Watched id Sound) discreet_monitor (fun url pending => ?_) ?_ hs
    · refine (holds_pass hreached htraverse (.str id) url pending hs).mono ?_
      rintro s (e | outcome) h
      · exact .inr ⟨id, h⟩
      · exact h
    · intro s result hs hsuccess hid herrors
      exact .inr ⟨id, hs, hsuccess, hid, herrors.trans hr⟩

theorem sound_iff {fits written : Bool} {t : List (Event World)} :
    Sound
      { id := id
        unsent := 0 + t.countP Event.isAnnouncement - t.countP Event.isSend
        fit := fits && t.all Event.fits
        written := written } ↔ fits = true ∧ Fitting t := by
  simp only [Sound, Fitting, Bool.and_eq_true, List.all_eq_true]
  constructor
  · rintro ⟨hunsent, hfits, hall⟩
    exact ⟨hfits, hall, by omega⟩
  · rintro ⟨hfits, hall, hcount⟩
    exact ⟨by omega, hfits, hall⟩

/-- After a flow is created, the build ends whatever the service replies, and either with a success
that names the flow or with an accident. It is a success if and only if the answer to the creation
and all later replies fit and every announced request is sent. -/
theorem keeps_created_flow {f : Flow} {m : Memory} {t : List (Event World)} {e : Event World}
    {q : Program World (Except Failure BuildResult × Memory)}
    (h : Program.Reaches ((k.build f).start m) (t ++ [e]) q) (he : e.createdId? = some id) :
    q.Ends ∧ ∀ t' x, Program.Reaches q t' (.done x) →
      ((∃ result, x.1 = .ok result ∧ result.success = true ∧ result.flowId = .str id ∧
          result.errors = []) ∨ ∃ failure, x.1 = .error failure ∧ failure.foreseen = false) ∧
        ((∀ e' ∈ t', e'.isWritten = true) →
          ((∃ result, x.1 = .ok result) ↔ e.fits = true ∧ Fitting t')) := by
  obtain ⟨haccepts, hq⟩ := (k.holds_build_account f m).reaches h
  obtain ⟨-, hallowed, -⟩ := Monitor.accepts_append.mp haccepts
  have hopened : monitor.after none (t ++ [e]) = some ⟨id, 0, e.fits, true⟩ := by
    rw [Monitor.after_append]
    cases hbefore : monitor.after none t with
    | none =>
      change Account.next none e = _
      rw [Account.next, he]
      rfl
    | some a =>
      rw [hbefore] at hallowed
      change e.createdId? = none at hallowed
      rw [he] at hallowed
      cases hallowed
  rw [hopened] at hq
  refine ⟨hq.ends (by simp) ?_, fun t' x hx => ?_⟩
  · rintro (_ | a) e' - hloop
    · exact absurd rfl hloop
    · exact Option.some_ne_none _
  · obtain ⟨-, hx⟩ := hq.reaches hx
    obtain ⟨result, m'⟩ := x
    change Concluded (monitor.after (some _) t') result at hx
    rw [after_some, Bool.true_and] at hx
    rcases hx with hx | ⟨id', hx⟩
    · cases hx
    · cases result with
      | ok result =>
        obtain ⟨⟨a, ha, rfl, hsound⟩, hsuccess, hid, herrors⟩ := hx
        cases ha
        refine ⟨.inl ⟨result, rfl, hsuccess, hid, herrors⟩, fun hwritten => ?_⟩
        exact iff_of_true ⟨result, rfl⟩ (sound_iff.mp (hsound (List.all_eq_true.mpr hwritten)))
      | error failure =>
        obtain ⟨⟨a, ha, rfl, hunsound⟩, hforeseen⟩ := hx
        cases ha
        refine ⟨.inr ⟨failure, rfl, hforeseen⟩, fun hwritten => iff_of_false ?_ fun hfit => ?_⟩
        · rintro ⟨result, ⟨⟩⟩
        · exact hunsound (List.all_eq_true.mpr hwritten) (sound_iff.mpr hfit)

/-- A flow is created by the eighth event of a build. -/
theorem greeting_kept :
    ∃ t e q, Program.Reaches ((nearby.build .greeting).start .empty) (t ++ [e]) q ∧
      e.createdId? = some "F1" ∧ q.Ends ∧ ∀ t' x, Program.Reaches q t' (.done x) →
        (∀ e' ∈ t', e'.isWritten = true) → e.fits = true ∧ Fitting t' →
          ∃ result, x.1 = .ok result := by
  have hrun := Program.reaches_record World.smooth 8 ((nearby.build .greeting).start .empty)
  have hlast : (Program.record World.smooth 8
      ((nearby.build .greeting).start .empty)).1.getLast?.bind Event.createdId? = some "F1" := by
    simp only [build, nearby, precreate, Payload.ofFlow, Flow.traverse_greeting, create,
      Client.createFlow, Client.send, Client.request, Content.toBody_document]
    decide +kernel
  obtain ⟨e, he, hid⟩ := Option.bind_eq_some_iff.mp hlast
  rw [← List.dropLast_append_getLast? e he] at hrun
  obtain ⟨hends, hdone⟩ := keeps_created_flow hrun hid
  refine ⟨_, e, _, hrun, hid, hends, fun t' x hx hwritten hfit => ?_⟩
  exact ((hdone t' x hx).2 hwritten).mpr hfit

end Creator

end MarketingFlow
