import MarketingFlow.Proofs.Build.FollowUp

/-!
# The way of a flow

Nothing is sent for a flow that cannot be built: an invalid one is refused before anything is done,
and one with an A/B split is made in the visual builder or not at all. In hybrid mode any other flow
goes through the service, and the visual builder makes it just in case the service failed to.
-/

namespace MarketingFlow

/-- Nothing is sent to the service, and no session of the visual builder is opened. -/
def World.Call.Idle : World.Call → Prop
  | .send _ => False
  | .openSession => False
  | _ => True

open Outcome World.Call

/-- Refuses all that is not idle, and every loop. -/
abbrev idler : Monitor World :=
  ⟨Unit, fun _ e => Idle e.call, fun g _ => g, fun _ => False⟩

theorem ignores_idler {e : Event World} (h : Idle e.call) : idler.Ignores e :=
  fun _ => ⟨h, rfl⟩

theorem discreet_idler : idler.Discreet where
  log _ _ _ _ := ignores_idler trivial
  response _ _ := ignores_idler trivial
  sleep _ _ := ignores_idler trivial

namespace Payload

theorem not_isSupported_of_split {w : Work} (h : w.typeName = "ab-split") :
    isSupported w = false := by
  cases w <;> first | rfl | simp [Work.typeName] at h

theorem checkCapabilities_of_split {f : Flow} (h : f.hasActionType "ab-split" = true) :
    ∃ e : Failure, e.foreseen = true ∧ checkCapabilities f = .error e := by
  obtain ⟨a, ha, htype⟩ := List.any_eq_true.mp h
  have hunsupported := not_isSupported_of_split (beq_iff_eq.mp htype)
  rw [checkCapabilities]
  cases hfound : f.actions.find? fun a => !isSupported a.work with
  | some a => exact ⟨_, rfl, rfl⟩
  | none =>
    have hnone := List.find?_eq_none.mp hfound a ha
    rw [hunsupported] at hnone
    exact absurd rfl hnone

end Payload

/-- A flow with an A/B split is declined before the service is asked for anything. -/
theorem Creator.holds_build_of_split (k : Creator) {f : Flow}
    (h : f.hasActionType "ab-split" = true) :
    (k.build f).Holds idler (fun _ res => ∃ r, res = .ok r ∧ r.success = false) () := by
  obtain ⟨e, he, hcheck⟩ := Payload.checkCapabilities_of_split h
  unfold build
  refine .log_bind discreet_idler ?_
  rw [hcheck]
  dsimp only
  rw [fail, he]
  exact .log_bind discreet_idler (.pure ⟨_, rfl, rfl⟩)

theorem isBuilding_of_stepless {e : Event World} (h : Stepless e.call) : e.isBuilding = false := by
  obtain ⟨c, answer⟩ := e
  cases c <;> first | rfl | exact h.elim

theorem isBuilding_of_plain {e : Event World} (h : Plain e.call) : e.isBuilding = false := by
  obtain ⟨c, answer⟩ := e
  cases c with
  | perform s =>
    rw [Event.isBuilding, show s.operation = .setReentry from h]
    rfl
  | _ => rfl

namespace Builder

variable (b : Builder) {f : Flow} {v : Verdict} {t : List (Event World)}
  {res : Except Failure BuildResult}

/-- The client at hand, or else one that is made from the configuration. -/
def provided : Except Failure Client :=
  match b.client with
  | some c => .ok c
  | none => b.connection >>= Client.ofConnection

/-- What a build through the service works with. -/
def service : Except Failure Creator :=
  b.provided >>= b.creator

/-- What the service alone comes to for a flow that it cannot create: a failed result, if the
configuration makes a client at all. -/
def Declined (service : Except Failure Creator) (res : Except Failure BuildResult) : Prop :=
  match service with
  | .error e => res = .error e
  | .ok _ => ∃ r, res = .ok r ∧ r.success = false

section

variable {service : Except Failure Creator} {r : BuildResult}

theorem Declined.failed (h : Declined service (.ok r)) : r.success = false := by
  cases service with
  | error e => cases h
  | ok k =>
    obtain ⟨_, ⟨rfl⟩, hr⟩ := h
    exact hr

theorem Declined.of_failed {r' : BuildResult} (h : Declined service (.ok r))
    (hr' : r'.success = r.success) : Declined service (.ok r') := by
  cases service with
  | error e => cases h
  | ok k => exact ⟨r', rfl, hr'.trans h.failed⟩

end

theorem holds_connect : b.connect.Holds idler
    (fun _ r => r = b.connection >>= Client.ofConnection) () := by
  unfold connect
  refine .ofExcept_bind (fun c hc => ?_) fun e he => ?_
  · refine .ignored_bind (fun _ => ignores_idler trivial) fun _ => .ofExcept ?_
    rw [hc]
    rfl
  · rw [he]
    rfl

theorem holds_buildByService_of_split (h : f.hasActionType "ab-split" = true) :
    (b.buildByService f).Holds idler (fun _ res => Declined b.service res) () := by
  have hcreator : ∀ c, b.provided = .ok c → (Task.ofExcept (b.creator c) >>= fun k =>
      ((k.build f).within (fun _ => .empty) fun s _ => s : Work BuildResult)).Holds idler
        (fun _ res => Declined b.service res) () := by
    intro c hc
    rw [service, hc, ok_bind]
    refine .ofExcept_bind (fun k hk => ?_) fun e he => ?_
    · rw [hk]
      exact (k.holds_build_of_split h).within
    · rw [he]
      rfl
  unfold buildByService
  cases hclient : b.client with
  | some c => exact hcreator c (by rw [provided, hclient])
  | none =>
    have hprovided : b.provided = b.connection >>= Client.ofConnection := by rw [provided, hclient]
    refine b.holds_connect.bind (fun _ c hc => hcreator c (hprovided.trans hc.symm)) ?_
    intro _ e he
    rw [service, hprovided, ← he]
    rfl

/-! ## The routes -/

def splitMessage : Event World :=
  ⟨.log .info "Flow contains an A/B split; using browser automation.", ()⟩

def fallbackMessage : Event World :=
  ⟨.log .warning "API build failed; falling back to browser automation.", ()⟩

/-- The build through the service comes first. -/
def ServiceFirst (f : Flow) : Prop :=
  b.config.mode = .api ∨ b.config.mode = .hybrid ∧ f.hasActionType "ab-split" = false

/-- The ways in which a flow is built in the configured mode, with all that is asked and answered on
them and what they come to. -/
inductive Route (f : Flow) : List (Event World) → Except Failure BuildResult → Prop where
  | raised {u : List (Event World)} {e : Failure} (hfirst : b.ServiceFirst f)
      (hservice : (b.buildByService f).Run () u (.error e) ()) : Route f u (.error e)
  | service {u w : List (Event World)} {r : BuildResult} {res : Except Failure BuildResult}
      (hmode : b.config.mode = .api) (hservice : (b.buildByService f).Run () u (.ok r) ())
      (hrest : (b.followUp f r).Run () w res ()) : Route f (u ++ w) res
  | created {u w : List (Event World)} {r : BuildResult} {res : Except Failure BuildResult}
      (hmode : b.config.mode = .hybrid) (hsplit : f.hasActionType "ab-split" = false)
      (hservice : (b.buildByService f).Run () u (.ok r) ()) (hsuccess : r.success = true)
      (hrest : (b.followUp f { r with mode := .hybrid }).Run () w res ()) : Route f (u ++ w) res
  | fallback {u w : List (Event World)} {r : BuildResult} {x : Except Failure BuildResult}
      (hmode : b.config.mode = .hybrid) (hsplit : f.hasActionType "ab-split" = false)
      (hservice : (b.buildByService f).Run () u (.ok r) ()) (hfailed : r.success = false)
      (hbrowser : (b.buildInBrowser f).Run () w x ()) :
      Route f (u ++ fallbackMessage :: w) (x.map fun made => { made with
        mode := .hybrid
        warnings := made.warnings ++ [fallbackWarning] ++ r.errors.map ("API attempt: " ++ ·) })
  | split {w : List (Event World)} {x : Except Failure BuildResult}
      (hmode : b.config.mode = .hybrid) (hsplit : f.hasActionType "ab-split" = true)
      (hbrowser : (b.buildInBrowser f).Run () w x ()) :
      Route f (splitMessage :: w) (x.map fun made => { made with mode := .hybrid })
  | browser {w : List (Event World)} {x : Except Failure BuildResult}
      (hmode : b.config.mode = .browser) (hbrowser : (b.buildInBrowser f).Run () w x ()) :
      Route f w x

theorem route_of_run_hybrid (hmode : b.config.mode = .hybrid)
    (h : (b.buildHybrid f).Run () t res ()) : b.Route f t res := by
  unfold buildHybrid at h
  split at h
  next hsplit =>
    obtain ⟨⟨⟩, w, rfl, hrest⟩ := Task.run_ask_bind h
    obtain ⟨x, hbrowser, rfl⟩ := Task.run_map hrest
    exact .split hmode hsplit hbrowser
  next hsplit =>
    rw [Bool.not_eq_true] at hsplit
    rcases Task.run_bind h with ⟨u, w, r, s, rfl, hservice, hrest⟩ | ⟨e, rfl, hservice⟩
    · split at hrest
      next hsuccess => exact .created hmode hsplit hservice hsuccess hrest
      next hfailed =>
        obtain ⟨⟨⟩, w, rfl, hsecond⟩ := Task.run_ask_bind hrest
        obtain ⟨x, hbrowser, rfl⟩ := Task.run_map hsecond
        exact .fallback hmode hsplit hservice (Bool.eq_false_iff.mpr hfailed) hbrowser
    · exact .raised (.inr ⟨hmode, hsplit⟩) hservice

theorem route_of_run (h : (b.buildInMode f).Run () t res ()) : b.Route f t res := by
  unfold buildInMode at h
  cases hmode : b.config.mode with
  | api =>
    rw [hmode] at h
    rcases Task.run_bind h with ⟨u, w, r, s, rfl, hservice, hrest⟩ | ⟨e, rfl, hservice⟩
    · exact .service hmode hservice hrest
    · exact .raised (.inl hmode) hservice
  | browser =>
    rw [hmode] at h
    exact .browser hmode h
  | hybrid =>
    rw [hmode] at h
    exact b.route_of_run_hybrid hmode h

/-- In hybrid mode nothing is built in the visual builder unless the service came to a failed
result before. -/
theorem reaches_buildHybrid (hsplit : f.hasActionType "ab-split" = false)
    {q : Program World (Except Failure BuildResult × Unit)}
    (h : Program.Reaches ((b.buildHybrid f).start ()) t q) :
    (∀ e ∈ t, e.isBuilding = false) ∨ ∃ u w r, t = u ++ w ∧
      (b.buildByService f).Run () u (.ok r) () ∧ r.success = false := by
  have hstepless : ∀ {u p}, Program.Reaches ((b.buildByService f).start ()) u p →
      ∀ e ∈ u, e.isBuilding = false :=
    fun hp e he => isBuilding_of_stepless ((b.stepless_buildByService f ()).reaches hp e he)
  unfold buildHybrid at h
  rw [hsplit] at h
  rcases Task.reaches_bind h with ⟨p, hp⟩ | ⟨u, w, r, s, rfl, hservice, hrest⟩
  · exact .inl (hstepless hp)
  · cases hr : r.success with
    | false => exact .inr ⟨u, w, r, rfl, hservice, hr⟩
    | true =>
      rw [hr] at hrest
      refine .inl (List.forall_mem_append.mpr ⟨hstepless hservice, fun e he => ?_⟩)
      exact isBuilding_of_plain ((b.plain_followUp f _ s).reaches hrest e he)

section

variable (hv : f.validate = .ok v)

include hv

/-- An invalid flow is refused before anything is done. -/
theorem build_of_invalid (hinvalid : v.valid = false) :
    b.build f = throw { cause := .structural v.errors } := by
  unfold build
  rw [hv]
  change (if !v.valid then _ else _) = _
  rw [hinvalid]
  rfl

theorem build_of_valid (hvalid : v.valid = true) :
    b.build f = (v.warnings.forM (Task.log .warning ·) : Work PUnit) >>= fun _ =>
      b.buildInMode f >>= fun r => pure { r with warnings := v.warnings ++ r.warnings } := by
  unfold build
  rw [hv]
  change (if !v.valid then _ else _) = _
  rw [hvalid]
  rfl

theorem route_of_run_build (hvalid : v.valid = true) (h : (b.build f).Run () t res ()) :
    ∃ u x, t = Task.messages .warning v.warnings ++ u ∧ b.Route f u x ∧
      res = x.map fun r => { r with warnings := v.warnings ++ r.warnings } := by
  rw [b.build_of_valid hv hvalid] at h
  rcases Task.run_bind h with ⟨m, u, ⟨⟩, s, rfl, hremarks, hrest⟩ | ⟨e, -, hremarks⟩
  · obtain ⟨rfl, -, -⟩ := Task.eq_of_run_logs hremarks
    obtain ⟨x, hmode, rfl⟩ := Task.run_map hrest
    exact ⟨u, x, rfl, b.route_of_run hmode, rfl⟩
  · obtain ⟨-, hok, -⟩ := Task.eq_of_run_logs hremarks
    cases hok

/-! ## At every moment -/

theorem holds_build_of_split (hvalid : v.valid = true) (hmode : b.config.mode = .api)
    (hsplit : f.hasActionType "ab-split" = true) :
    (b.build f).Holds idler (fun _ res => Declined b.service res) () := by
  rw [b.build_of_valid hv hvalid]
  refine (Task.Holds.logs discreet_idler .warning v.warnings).bind ?_ (by rintro _ e ⟨-, ⟨⟩⟩)
  rintro _ _ -
  have hmode : (b.buildInMode f).Holds idler (fun _ res => Declined b.service res) () := by
    unfold buildInMode
    rw [hmode]
    refine (b.holds_buildByService_of_split hsplit).bind (fun _ r hr => ?_) fun _ _ h => h
    rw [followUp, hr.failed]
    exact .pure hr
  exact hmode.bind (fun _ r hr => .pure (hr.of_failed rfl)) fun _ _ h => h

/-- The service was tried and came to a failed result before anything else happened. -/
def Refused (f : Flow) (v : Verdict) (t : List (Event World)) : Prop :=
  ∃ u w r, t = Task.messages .warning v.warnings ++ (u ++ w) ∧
    (b.buildByService f).Run () u (.ok r) () ∧ r.success = false

/-- Once anything is built in the visual builder, the service has been tried in vain. -/
theorem refused_of_building (hvalid : v.valid = true) (hmode : b.config.mode = .hybrid)
    (hsplit : f.hasActionType "ab-split" = false)
    {q : Program World (Except Failure BuildResult × Unit)}
    (h : Program.Reaches ((b.build f).start ()) t q) (hbuilding : ∃ e ∈ t, e.isBuilding = true) :
    b.Refused f v t := by
  have hnot : ¬∀ e ∈ t, e.isBuilding = false := by
    obtain ⟨e, he, hbuilding⟩ := hbuilding
    intro hnone
    rw [hnone e he] at hbuilding
    cases hbuilding
  rw [b.build_of_valid hv hvalid] at h
  have hlogs : (v.warnings.forM (Task.log .warning ·) : Work PUnit).Calls Stepless := .logs _ _
  rcases Task.reaches_bind h with ⟨p, hp⟩ | ⟨m, rest, _, s, rfl, hremarks, hrest⟩
  · refine absurd (fun e he => ?_) hnot
    exact isBuilding_of_stepless ((hlogs ()).reaches hp e he)
  · obtain ⟨p, hp⟩ := Task.reaches_map hrest
    unfold buildInMode at hp
    rw [hmode] at hp
    rcases b.reaches_buildHybrid hsplit hp with hnone | ⟨u, w, r, rfl, hservice, hfailed⟩
    · refine absurd (List.forall_mem_append.mpr ⟨fun e he => ?_, hnone⟩) hnot
      exact isBuilding_of_stepless ((hlogs ()).reaches hremarks e he)
    · obtain ⟨rfl, -, -⟩ := Task.eq_of_run_logs hremarks
      exact ⟨u, w, r, rfl, hservice, hfailed⟩

/-! ## The verdict is heeded -/

/-- What follows the build through the service in hybrid mode, given what that came to: the visual
builder makes the flow just in case the service failed to, and its result tells what went wrong. -/
def Continues (f : Flow) (tried : Except Failure BuildResult) (w : List (Event World))
    (res : Except Failure BuildResult) : Prop :=
  match tried with
  | .error e => w = [] ∧ res = .error e
  | .ok r =>
    if r.success then ∀ e ∈ w, e.isBuilding = false
    else ∃ u x, w = fallbackMessage :: u ∧ (b.buildInBrowser f).Run () u x () ∧
      match x with
      | .error e => res = .error e
      | .ok made => ∃ r', res = .ok r' ∧ r'.flowId = made.flowId ∧
          ∀ text ∈ r.errors, "API attempt: " ++ text ∈ r'.warnings

/-- A build does what the verdict on its flow and the abilities of the service allow. -/
structure Heeds (f : Flow) (v : Verdict) : Prop where
  /-- An invalid flow is refused before anything is done. -/
  invalid : v.valid = false →
    (b.build f).start () = .done (.error { cause := .structural v.errors }, ())
  /-- The service alone cannot create an A/B split: nothing is sent, and the result has failed. -/
  declined : v.valid = true → b.config.mode = .api → f.hasActionType "ab-split" = true →
    ((b.build f).start ()).Ends ∧
      (∀ t q, Program.Reaches ((b.build f).start ()) t q → ∀ e ∈ t, Idle e.call) ∧
      ∀ t res, (b.build f).Run () t res () → Declined b.service res
  /-- With the visual builder at hand it is made there, and nothing is sent either. -/
  split : v.valid = true → b.config.mode = .hybrid → f.hasActionType "ab-split" = true →
    (b.build f).Calls Offline ∧
      ∀ t res, (b.build f).Run () t res () → ∃ w x,
        t = Task.messages .warning v.warnings ++ splitMessage :: w ∧
        (b.buildInBrowser f).Run () w x () ∧ res = x.map fun made => { made with
          mode := .hybrid
          warnings := v.warnings ++ made.warnings }
  /-- Any other flow is made there only after the service came to a failed result. -/
  hybrid : v.valid = true → b.config.mode = .hybrid → f.hasActionType "ab-split" = false →
    (∀ t q, Program.Reaches ((b.build f).start ()) t q → (∃ e ∈ t, e.isBuilding = true) →
      b.Refused f v t) ∧
      ∀ t res, (b.build f).Run () t res () → ∃ u w tried,
        t = Task.messages .warning v.warnings ++ (u ++ w) ∧
        (b.buildByService f).Run () u tried () ∧ b.Continues f tried w res
  /-- The remarks of the validation come first. -/
  remarks : ∀ t r, (b.build f).Run () t (.ok r) () → v.warnings <+: r.warnings

theorem build_heeds : b.Heeds f v where
  invalid hinvalid := by
    rw [b.build_of_invalid hv hinvalid]
    rfl
  declined hvalid hmode hsplit := by
    have hbuild := b.holds_build_of_split hv hvalid hmode hsplit ()
    refine ⟨hbuild.ends id fun _ _ _ h => h, fun t q hq => ?_, fun t res hr => ?_⟩
    · exact Monitor.allows_of_accepts (fun _ _ => rfl) (hbuild.reaches hq).1
    · exact (hbuild.reaches hr).2
  split hvalid hmode hsplit := by
    constructor
    · rw [b.build_of_valid hv hvalid]
      refine .bind (.logs _ _) fun _ => .bind ?_ fun _ => .pure _
      unfold buildInMode buildHybrid
      rw [hmode, hsplit]
      exact .bind (.log _ _) fun _ => .bind (b.offline_buildInBrowser f) fun _ => .pure _
    · intro t res h
      obtain ⟨u, x, rfl, hroute, rfl⟩ := b.route_of_run_build hv hvalid h
      cases hroute with
      | @split w x _ _ hbrowser =>
        refine ⟨w, x, rfl, hbrowser, ?_⟩
        cases x <;> rfl
      | raised hfirst hservice =>
        rw [ServiceFirst, hmode, hsplit] at hfirst
        simp at hfirst
      | service hapi _ _ => simp [hmode] at hapi
      | created _ hnosplit _ _ _ => simp [hsplit] at hnosplit
      | fallback _ hnosplit _ _ _ => simp [hsplit] at hnosplit
      | browser hbrowser _ => simp [hmode] at hbrowser
  hybrid hvalid hmode hsplit := by
    refine ⟨fun t q hq => b.refused_of_building hv hvalid hmode hsplit hq, fun t res h => ?_⟩
    obtain ⟨u, x, rfl, hroute, rfl⟩ := b.route_of_run_build hv hvalid h
    cases hroute with
    | raised _ hservice => exact ⟨u, [], _, by rw [List.append_nil], hservice, rfl, rfl⟩
    | @created u w r _ _ _ hservice hsuccess hrest =>
      refine ⟨u, w, .ok r, rfl, hservice, ?_⟩
      rw [Continues, if_pos hsuccess]
      exact fun e he => isBuilding_of_plain ((b.plain_followUp f _ ()).reaches hrest e he)
    | @fallback u w r x _ _ hservice hfailed hbrowser =>
      refine ⟨u, fallbackMessage :: w, .ok r, rfl, hservice, ?_⟩
      rw [Continues, hfailed]
      refine ⟨w, x, rfl, hbrowser, ?_⟩
      cases x with
      | error e => rfl
      | ok made =>
        refine ⟨_, rfl, rfl, fun text htext => ?_⟩
        simp [htext]
    | service hapi _ _ => simp [hmode] at hapi
    | split _ hsplit' _ => simp [hsplit] at hsplit'
    | browser hbrowser _ => simp [hmode] at hbrowser
  remarks t r h := by
    cases hvalid : v.valid with
    | false =>
      rw [b.build_of_invalid hv hvalid] at h
      cases h
    | true =>
      obtain ⟨u, x, rfl, hroute, hr⟩ := b.route_of_run_build hv hvalid h
      cases x with
      | error e => cases hr
      | ok made =>
        cases hr
        exact List.prefix_append _ _

end

/-- A flow that does nothing but split its profiles. -/
def halves : Flow :=
  { name := .str "Halves"
    trigger := some (.list .null (.str "L1"))
    actions := [⟨"split", .variants ⟨.null, .null, .null, .null, .null⟩⟩]
    entry := .str "split"
    profileFilter := none
    settings := none
    tags := [] }

theorem validate_halves : halves.validate = .ok ⟨[], []⟩ := by
  cbv

def direct : Builder :=
  ⟨{ mode := .api, pacingDelay := .int 0 }, some Client.nearby⟩

/-- Without the visual builder, nothing is sent for a split, and the result tells so. -/
theorem halves_declined :
    (∀ t q, Program.Reaches ((direct.build halves).start ()) t q → ∀ e ∈ t, Idle e.call) ∧
      ∃ t r, (direct.build halves).Run () t (.ok r) () ∧ r.success = false := by
  obtain ⟨hends, hidle, hdeclined⟩ := (direct.build_heeds validate_halves).declined rfl rfl rfl
  obtain ⟨k, hk⟩ : ∃ k, direct.service = .ok k := ⟨_, rfl⟩
  obtain ⟨t, ⟨res, _⟩, hrun⟩ := hends.exists_done World.smooth
  have hres := hdeclined t res hrun
  rw [hk] at hres
  obtain ⟨r, rfl, hfailed⟩ := hres
  exact ⟨hidle, t, r, hrun, hfailed⟩

/-- Every client has a key that a header can hold. -/
theorem read_authorization_of_ofConnection {c : Connection} {client : Client}
    (h : Client.ofConnection c = .ok client) :
    ∃ key, Header.read (.str (Client.authorizationOf c.apiKey.text)) = .ok key := by
  unfold Client.ofConnection at h
  split at h
  · obtain ⟨url, -, h⟩ := bind_eq_ok_iff.mp h
    obtain ⟨base, -, h⟩ := bind_eq_ok_iff.mp h
    obtain ⟨key, hkey, -⟩ := bind_eq_ok_iff.mp h
    exact ⟨key, hkey⟩
  · cases h

/-- A configuration with a key that no header can hold. -/
def accented : Builder :=
  ⟨{ mode := .api, apiKey := .str "pk_é" }, none⟩

/-- Where no client can be made, a split does not lead to a failed result: the build fails. -/
theorem accented_raises :
    halves.validate = .ok ⟨[], []⟩ ∧ halves.hasActionType "ab-split" = true ∧
      accented.config.mode = .api ∧ ∃ t e, (accented.build halves).Run () t (.error e) () := by
  refine ⟨validate_halves, rfl, rfl, ?_⟩
  have hheader : ∃ e, Header.read (.str (Client.authorizationOf accented.config.apiKey.text)) =
      .error e := ⟨_, rfl⟩
  have hservice : ∃ e, accented.service = .error e := by
    cases h : accented.service with
    | error e => exact ⟨e, rfl⟩
    | ok k =>
      obtain ⟨client, hclient, -⟩ := bind_eq_ok_iff.mp h
      obtain ⟨c, hc, hclient⟩ := bind_eq_ok_iff.mp hclient
      obtain ⟨key, hkey⟩ := read_authorization_of_ofConnection hclient
      obtain ⟨timeout, -, hc⟩ := bind_eq_ok_iff.mp hc
      cases hc
      obtain ⟨e, he⟩ := hheader
      cases he.symm.trans hkey
  obtain ⟨e, he⟩ := hservice
  have hbuild := accented.holds_build_of_split validate_halves rfl rfl rfl ()
  obtain ⟨t, ⟨res, _⟩, hrun⟩ := (hbuild.ends id fun _ _ _ h => h).exists_done World.smooth
  have hres := (hbuild.reaches hrun).2
  rw [he] at hres
  exact ⟨t, e, hres ▸ hrun⟩

end Builder

end MarketingFlow
