import MarketingFlow.Proofs.Build.OneCreation
import MarketingFlow.Proofs.Interaction.Endings
import MarketingFlow.Proofs.Interaction.Exchanges
import MarketingFlow.Proofs.Plan.Outcome

/-!
# Setting a re-entry policy afterwards

A flow that was created through the service is opened in the visual builder to set its re-entry
policy. Whatever fails there, the flow stays created: the follow-up always ends, raises nothing and
keeps all that the result says of the flow. It either sets the policy and says so, or it leaves a
warning with the address of the flow.
-/

namespace MarketingFlow

open Outcome

/-- A session that went well was closed without a failure. -/
def Event.closesWell : Event World → Bool
  | ⟨.closeSession true, (answer : Except Failure Unit)⟩ => answer.isOk
  | _ => false

def stepped (t : List (Event World)) : Bool :=
  (performances t).any fun x => x.1.operation == .setReentry && x.2

/-- A step set the re-entry policy, and the session in which it did was closed well. -/
def setsReentry (t : List (Event World)) : Bool :=
  stepped t && t.any Event.closesWell

/-- Whatever leaves a session of the visual builder open. -/
def World.Call.Open : World.Call → Prop
  | .closeSession _ => False
  | _ => True

/-- Neither a step in the visual builder nor the end of a session. -/
def World.Call.Stepless : World.Call → Prop
  | .perform _ => False
  | .closeSession _ => False
  | _ => True

instance : World.Call.Talks World.Call.Open where
  log _ _ := trivial
  sleep _ := trivial

instance : World.Call.Serves World.Call.Stepless where
  log _ _ := trivial
  sleep _ := trivial
  get _ _ := trivial
  upload _ _ _ := trivial
  send _ _ := trivial
  workingDirectory := trivial
  look _ := trivial
  fileBytes _ := trivial

open World.Call

variable {σ α β : Type}

@[simp] theorem stepped_append (u v : List (Event World)) :
    stepped (u ++ v) = (stepped u || stepped v) := by
  rw [stepped, performances_append, List.any_append, ← stepped, ← stepped]

theorem stepped_of_stepless {u : List (Event World)} (h : ∀ e ∈ u, Stepless e.call) :
    stepped u = false := by
  have hperformances : performances u = [] := by
    refine List.filterMap_eq_nil_iff.mpr fun e he => ?_
    have hcall := h e he
    obtain ⟨c, answer⟩ := e
    cases c <;> first | rfl | exact hcall.elim
  rw [stepped, hperformances, List.any_nil]

theorem not_closesWell_of_open {u : List (Event World)} (h : ∀ e ∈ u, Open e.call) :
    u.any Event.closesWell = false := by
  refine List.any_eq_false.mpr fun e he => ?_
  have hcall := h e he
  obtain ⟨c, answer⟩ := e
  cases c <;> first | exact Bool.false_ne_true | exact hcall.elim

theorem open_of_stepless {c : World.Call} (h : Stepless c) : Open c := by
  cases c <;> trivial

theorem setsReentry_append_of_stepless {u : List (Event World)} (h : ∀ e ∈ u, Stepless e.call)
    (v : List (Event World)) : setsReentry (u ++ v) = setsReentry v := by
  have hcloses := not_closesWell_of_open fun e he => open_of_stepless (h e he)
  rw [setsReentry, stepped_append, List.any_append, stepped_of_stepless h, hcloses, Bool.false_or,
    Bool.false_or, ← setsReentry]

theorem setsReentry_concat_log (u : List (Event World)) {level : Level} {text : String}
    (answer : (World.Call.log level text).Answer) :
    setsReentry (u ++ [⟨.log level text, answer⟩]) = setsReentry u := by
  simp [setsReentry, stepped, Event.closesWell]

/-! ## The settings of a result -/

theorem lookup_cons_eq (key key' value : String) (settings : List (String × String)) :
    ((key, value) :: settings).lookup key' =
      if key' = key then some value else settings.lookup key' := by
  rw [List.lookup_cons]
  by_cases h : key' = key
  · simp [h]
  · simp [h, beq_false_of_ne h]

theorem lookup_recordSetting (settings : List (String × String)) (key key' value : String) :
    (recordSetting settings key value).lookup key' =
      if key' = key then some value else settings.lookup key' := by
  induction settings with
  | nil => exact lookup_cons_eq key key' value []
  | cons s rest ih =>
    obtain ⟨k, v⟩ := s
    rw [recordSetting]
    split
    next hk =>
      rw [lookup_cons_eq, lookup_cons_eq, hk]
      split <;> rfl
    next hk =>
      rw [lookup_cons_eq, lookup_cons_eq, ih]
      grind

namespace Creator

variable (k : Creator)

theorem stepless_build (f : Flow) : (k.build f).Calls Stepless := by
  refine has_build k.follows_plain.keeps (fun _ _ => plain_call k.client.plain_ping _ _) ?_ f
  intro payload label n
  refine plain_call ?_ label n
  unfold Client.createFlow
  refine .bind (.log _ _) fun _ => .bind (k.client.calls_send fun _ _ _ => trivial) fun _ => ?_
  grind

/-- A success has the address of the flow that it names. -/
theorem addresses_build (f : Flow) :
    (k.build f).Ensures fun _ res => ∀ result, res = .ok result → result.success = true →
      result.flowUrl = if result.flowId.given then some (flowUrl result.flowId) else none := by
  refine ensures_build_success fun r prepared flowId => ?_
  refine ensures_complete.mono fun _ _ h result hr => ?_
  obtain ⟨outcome, images, rfl⟩ := h result hr
  rfl

end Creator

namespace Builder

variable (b : Builder)

/-! ## The build through the service -/

theorem stepless_connect : b.connect.Calls Stepless := by
  unfold connect
  exact .bind (.ofExcept _) fun _ => .bind (.ask trivial) fun _ => .ofExcept _

theorem stepless_buildByService (f : Flow) : (b.buildByService f).Calls Stepless := by
  have hbuild : ∀ k : Creator, ((k.build f).within (fun _ => .empty) fun s _ => s :
      Work BuildResult).Calls Stepless := fun k => (k.stepless_build f).within
  unfold buildByService
  cases b.client with
  | some c => exact .bind (.pure c) fun _ => .bind (.ofExcept _) hbuild
  | none => exact b.stepless_connect.bind fun _ => .bind (.ofExcept _) hbuild

/-- What a creator of the builder's configuration comes to, a build through the service does. -/
theorem traces_buildByService_of_build {f : Flow} {P : Except Failure BuildResult → Prop}
    (hbuild : ∀ c k, b.creator c = .ok k → (k.build f).Ensures fun _ r => P r)
    (herror : ∀ e, P (.error e)) : (b.buildByService f).Traces fun _ r => P r := by
  have hcreator : ∀ c : Client, (Task.ofExcept (b.creator c) >>= fun k =>
      ((k.build f).within (fun _ => .empty) fun s _ => s : Work BuildResult)).Traces
        fun _ r => P r :=
    fun c => .ofExcept_bind (fun k hk => (hbuild c k hk).traces.within) fun e _ => herror e
  unfold buildByService
  cases b.client with
  | some c => exact hcreator c
  | none =>
    refine Task.Traces.bind (P := fun _ _ => True) (fun _ _ _ _ _ => trivial) ?_ ?_
    · exact fun _ c _ => hcreator c
    · exact fun _ e _ => herror e

/-- Where the service created a flow, the number of attempts at a step is known as well. -/
theorem traces_buildByService_address (f : Flow) :
    (b.buildByService f).Traces fun _ res => ∀ r, res = .ok r → r.success = true →
      (∃ o, b.stepRetry = .ok o) ∧
        r.flowUrl = if r.flowId.given then some (flowUrl r.flowId) else none := by
  refine b.traces_buildByService_of_build (fun c k hk => ?_) (by rintro e r ⟨⟩)
  obtain ⟨n, hn, -⟩ := bind_eq_ok_iff.mp hk
  refine (k.addresses_build f).mono fun _ res h r hr hsuccess => ⟨?_, h r hr hsuccess⟩
  rw [stepRetry, hn]
  exact ⟨_, rfl⟩

/-! ## The session -/

/-- A session that is closed well was left by a task that did not fail. -/
theorem traces_inSession {t : Task Unit α} {P : List (Event World) → Except Failure α → Prop}
    (h : t.Traces fun u r => (∀ e ∈ u, Open e.call) ∧ P u r) :
    (inSession t).Traces fun u r => match r with
      | .ok a => ∃ v, P v (.ok a) ∧ setsReentry u = stepped v
      | .error _ => setsReentry u = false := by
  unfold inSession
  refine .ask_bind fun opened => .ofExcept_bind (fun _ _ => ?_) fun _ _ => rfl
  refine h.result_bind ?_
  rintro u (e | a) ⟨hu, hP⟩
  · refine .ask_bind fun closed => .throw ?_
    have hopen := not_closesWell_of_open hu
    simp [setsReentry, hopen, Event.closesWell]
  · refine .ask_bind fun closed => .ofExcept_bind (fun _ hclosed => .pure ⟨u, hP, ?_⟩) ?_
    · subst hclosed
      simp [setsReentry, stepped, performances, Event.performance?, Event.closesWell, Except.isOk,
        Except.toBool]
    · rintro e rfl
      have hopen := not_closesWell_of_open hu
      simp [setsReentry, hopen, Event.closesWell, Except.isOk, Except.toBool]

/-- The only step of a follow-up leaves a warning unless it succeeds. -/
theorem traces_reentryPlan (f : Flow) (policy : Reentry) (retry : RetryOptions Number) :
    ((reentryPlan f policy).execute retry : Task Unit Execution).Traces fun u r =>
      ∃ e, r = .ok e ∧ stepped u = e.warnings.isEmpty := by
  refine (Plan.traces_execute _ retry).mono ?_
  rintro u r ⟨q, rfl, hcarried⟩
  refine ⟨_, rfl, ?_⟩
  rw [stepped]
  generalize performances u = w at hcarried ⊢
  cases hcarried with
  | skip hskips => cases hskips
  | succeed _ _ hrest =>
    cases hrest
    simp [Plan.tries, Plan.report, Plan.Progress.succeed, Plan.Progress.add, Plan.Progress.start,
      reentryPlan]
  | abort _ hcritical => cases hcritical
  | goOn _ _ _ f shot hrest =>
    cases hrest
    simp [Plan.tries, Plan.report, Plan.Progress.goOn]

theorem traces_setReentry (f : Flow) (policy : Reentry) (flowId : Json)
    (retry : RetryOptions Number) :
    (setReentry f policy flowId retry).Traces fun u r => match r with
      | .ok e => setsReentry u = e.warnings.isEmpty
      | .error _ => setsReentry u = false := by
  have hopening : ((do Task.ofExcept (← Task.ask (.openFlow flowId)) : Work Unit).retry
      ("Open flow " ++ flowId.text) retry).Calls Stepless :=
    .retry (.bind (.ask trivial) fun _ => .ofExcept _)
  have hplan : ((reentryPlan f policy).execute retry : Task Unit Execution).Calls Open :=
    Plan.calls_execute (fun _ => trivial) (fun _ _ => trivial) retry
  have hwork : (do
      (do Task.ofExcept (← Task.ask (.openFlow flowId)) : Work Unit).retry
        ("Open flow " ++ flowId.text) retry
      (reentryPlan f policy).execute retry : Work Execution).Traces fun u r =>
        (∀ e ∈ u, Open e.call) ∧ ∀ e, r = .ok e → stepped u = e.warnings.isEmpty := by
    refine hopening.traces.bind ?_ ?_
    · rintro u _ hu
      refine (hplan.traces.and (traces_reentryPlan f policy retry)).mono ?_
      rintro v r ⟨hv, e, rfl, he⟩
      refine ⟨List.forall_mem_append.mpr ⟨fun e he => open_of_stepless (hu e he), hv⟩, ?_⟩
      rintro _ ⟨rfl⟩
      rw [stepped_append, stepped_of_stepless hu, Bool.false_or, he]
    · rintro u e hu
      refine ⟨fun e he => open_of_stepless (hu e he), ?_⟩
      rintro _ ⟨⟩
  refine (traces_inSession hwork).mono ?_
  rintro u (e | e) hu
  · exact hu
  · obtain ⟨v, hv, hu⟩ := hu
    dsimp only
    rw [hu, hv e rfl]

/-- The text tells where the flow of the result is. -/
def Addresses (r : BuildResult) (text : String) : Prop :=
  ∃ before after, text = before ++ addressOf r ++ after

/-- What a follow-up may do to a result, given its trace: it adds warnings and pictures, and it
either sets the policy and says so, or it leaves the settings and tells where to do it by hand. -/
def FollowedUp (policy : Reentry) (t : List (Event World)) (r r' : BuildResult) : Prop :=
  ∃ warnings shots settings,
    r' = { r with
      warnings := r.warnings ++ warnings
      screenshots := r.screenshots ++ shots
      settingsApplied := settings } ∧
    if setsReentry t then
      ∀ key, settings.lookup key = if key = "Re-entry" then
        some (policy.describe ++ " (browser)") else r.settingsApplied.lookup key
    else settings = r.settingsApplied ∧ ∃ text ∈ warnings, Addresses r text

variable {policy : Reentry} {t : List (Event World)} {r : BuildResult} {warnings : List String}

theorem addresses_append (text : String) : Addresses r (text ++ addressOf r) :=
  ⟨text, "", (String.append_empty (s := text ++ addressOf r)).symm⟩

theorem followedUp_of_addresses (ht : setsReentry t = false)
    (h : ∃ text ∈ warnings, Addresses r text) (shots : List Json) :
    FollowedUp policy t r { r with
      warnings := r.warnings ++ warnings
      screenshots := r.screenshots ++ shots } := by
  refine ⟨warnings, shots, r.settingsApplied, rfl, ?_⟩
  rw [ht]
  exact ⟨rfl, h⟩

theorem followedUp_of_warnings (ht : setsReentry t = false)
    (h : ∃ text ∈ warnings, Addresses r text) :
    FollowedUp policy t r { r with warnings := r.warnings ++ warnings } := by
  have hshots : FollowedUp policy t r _ := followedUp_of_addresses ht h []
  rwa [List.append_nil] at hshots

theorem followedUp_of_set (ht : setsReentry t = true) (shots : List Json) :
    FollowedUp policy t r { r with
      screenshots := r.screenshots ++ shots
      settingsApplied :=
        recordSetting r.settingsApplied "Re-entry" (policy.describe ++ " (browser)") } := by
  refine ⟨[], shots, recordSetting r.settingsApplied "Re-entry" (policy.describe ++ " (browser)"),
    ?_, ?_⟩
  · rw [List.append_nil]
  · rw [if_pos ht]
    exact fun key => lookup_recordSetting ..

/-- A follow-up raises nothing but that the number of attempts is no number. -/
theorem traces_configureReentry {f : Flow} (hpolicy : f.reentry = some policy) (r : BuildResult) :
    (b.configureReentry f r).Traces fun u res =>
      (∃ r', res = .ok r' ∧ FollowedUp policy u r r') ∨
        ∃ e, b.stepRetry = .error e ∧ res = .error e := by
  have hbyHand : ∀ texts, ∃ text ∈ texts ++ [byHand r], Addresses r text :=
    fun texts => ⟨byHand r, List.mem_append_right _ (.head _), addresses_append _⟩
  unfold configureReentry
  rw [hpolicy]
  dsimp only
  split
  · refine .pure (.inl ⟨_, rfl, ?_⟩)
    exact followedUp_of_warnings rfl ⟨_, .head _, addresses_append _⟩
  · refine .ofExcept_bind (fun o _ => ?_) fun e he => .inr ⟨e, he, rfl⟩
    refine (traces_setReentry f policy r.flowId o).result_bind ?_
    rintro u (e | e) hu
    · refine .ask_bind fun _ => .pure (.inl ⟨_, rfl, followedUp_of_warnings ?_ (hbyHand [_])⟩)
      rw [setsReentry_concat_log]
      exact hu
    · replace hu : setsReentry u = e.warnings.isEmpty := hu
      dsimp only
      split
      next hclean =>
        refine .pure (.inl ⟨_, rfl, followedUp_of_set ?_ e.screenshots⟩)
        rw [List.append_nil, hu, hclean]
      next hwarned =>
        refine .pure (.inl ⟨_, rfl, ?_⟩)
        rw [List.append_nil, List.append_assoc]
        refine followedUp_of_addresses ?_ (hbyHand e.warnings) e.screenshots
        rw [hu, Bool.eq_false_iff]
        exact hwarned

theorem ends_inSession {t : Work α} (h : t.Ends) : (inSession t).Ends := by
  unfold inSession
  refine .bind (.ask _) fun _ => .bind (.ofExcept _) fun _ => .bind h.result fun r => ?_
  cases r with
  | ok a => exact .bind (.ask _) fun _ => .bind (.ofExcept _) fun _ => .pure a
  | error e => exact .bind (.ask _) fun _ => .throw e

theorem ends_configureReentry (f : Flow) (r : BuildResult) : (b.configureReentry f r).Ends := by
  have hset : ∀ policy flowId retry, (setReentry f policy flowId retry).Ends := by
    refine fun policy flowId retry => ends_inSession ?_
    refine .bind (.retry (.bind (.ask _) fun _ => .ofExcept _)) fun _ => ?_
    exact Plan.ends_execute _ retry
  unfold configureReentry
  grind

/-- After a flow was created through the service, the follow-up for its policy ends without a
failure, whatever the visual builder does, and keeps all that the result says of the flow. -/
theorem configureReentry_keeps {f : Flow} {policy : Reentry} (hpolicy : f.reentry = some policy)
    {t : List (Event World)} {r : BuildResult} (h : (b.buildByService f).Run () t (.ok r) ())
    (hsuccess : r.success = true) (hid : r.flowId.given = true) (m : Mode) :
    r.flowUrl = some (flowUrl r.flowId) ∧
      ((b.configureReentry f { r with mode := m }).start ()).Ends ∧
      ∀ u res, (b.configureReentry f { r with mode := m }).Run () u res () →
        ∃ r', res = .ok r' ∧ FollowedUp policy u { r with mode := m } r' := by
  obtain ⟨⟨o, ho⟩, haddress⟩ := b.traces_buildByService_address f () t _ () h r rfl hsuccess
  rw [if_pos hid] at haddress
  refine ⟨haddress, b.ends_configureReentry f _ (), fun u res hr => ?_⟩
  rcases b.traces_configureReentry hpolicy _ () u res () hr with hkept | ⟨e, he, -⟩
  · exact hkept
  · rw [ho] at he
    cases he

/-- An outside where no re-entry policy can be chosen. -/
def reluctant : (c : World.Call) → World.Answer c
  | .perform s =>
    (if s.operation = .setReentry then .error (Failure.value "no such choice") else .ok () :
      Except Failure Unit)
  | c => World.smooth c

/-- The flow stays created although its policy cannot be set. -/
theorem greeting_kept_created :
    ∃ t r u r', (nearby.buildByService .greeting).Run () t (.ok r) () ∧ r.success = true ∧
      r.flowId.given = true ∧ (nearby.configureReentry .greeting { r with mode := .hybrid }).Run ()
        u (.ok r') () ∧ r'.success = true ∧ setsReentry u = false ∧
      FollowedUp (.policy "once" .null .null) u { r with mode := .hybrid } r' := by
  let both : Work (BuildResult × BuildResult) := do
    let r ← nearby.buildByService .greeting
    let r' ← nearby.configureReentry .greeting { r with mode := .hybrid }
    return (r, r')
  have hlast : (fun x : List (Event World) × Program World (Except Failure _ × Unit) =>
      (x.2.result?.bind fun y => y.1.toOption.map fun (r, r') =>
        (r.success, r.flowId.given, r'.success), stepped x.1))
      (Program.record reluctant 80 (both.start ())) = (some (true, true, true), false) := by
    simp only [both, buildByService, nearby, Creator.build, Creator.precreate, Payload.ofFlow,
      Flow.traverse_greeting, Creator.create, Client.createFlow, Client.send, Client.request,
      Content.toBody_document]
    decide +kernel
  obtain ⟨hlast, hstepped⟩ : _ ∧ _ := by simpa only [Prod.mk.injEq] using hlast
  obtain ⟨⟨res, s⟩, hlast, hres⟩ := Option.bind_eq_some_iff.mp hlast
  cases res with
  | error e => cases hres
  | ok x =>
    obtain ⟨r, r'⟩ := x
    obtain ⟨hsuccess, hid, hkept⟩ :
        r.success = true ∧ r.flowId.given = true ∧ r'.success = true := by
      simpa [Except.toOption] using hres
    have hrun : both.Run () _ (.ok (r, r')) s := Program.reaches_of_record hlast
    generalize (Program.record reluctant 80 (both.start ())).1 = t at hrun hstepped
    rcases Task.run_bind hrun with ⟨v, w, r₁, s₁, rfl, hservice, hrest⟩ | ⟨e, he, -⟩
    · rcases Task.run_bind hrest with ⟨u, u', r₁', s₂, rfl, hfollow, hend⟩ | ⟨e, he, -⟩
      · obtain ⟨rfl, hend⟩ := Program.Reaches.of_done hend
        cases hend
        rw [List.append_nil, stepped_append, Bool.or_eq_false_iff] at hstepped
        obtain ⟨-, -, hkeeps⟩ := nearby.configureReentry_keeps rfl hservice hsuccess hid .hybrid
        obtain ⟨_, ⟨rfl⟩, hfollowed⟩ := hkeeps u _ hfollow
        refine ⟨v, r, u, r', hservice, hsuccess, hid, hfollow, hkept, ?_, hfollowed⟩
        rw [setsReentry, hstepped.2, Bool.false_and]
      · cases he
    · cases he

end Builder

end MarketingFlow
