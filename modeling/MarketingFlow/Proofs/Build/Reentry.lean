import MarketingFlow.Proofs.Build.FollowUp

/-!
# The re-entry policy in a result

A result of a build through the service names the re-entry policy of its flow in any case. What it
says of it tells whether a follow-up in the visual builder set it: only then is the browser named.
-/

namespace MarketingFlow

open Outcome Stage World.Call

theorem isCreation_of_plain {e : Event World} (h : Plain e.call) : e.isCreation = false := by
  obtain ⟨c, answer⟩ := e
  cases c with
  | send r =>
    change (r.asksForFlow && Reply.isSuccess answer) = false
    rw [Request.not_asksForFlow_of_plain h, Bool.false_and]
  | _ => rfl

theorem isCreation_of_offline {e : Event World} (h : Offline e.call) : e.isCreation = false := by
  obtain ⟨c, answer⟩ := e
  cases c with
  | send r => exact h.elim
  | _ => rfl

theorem Stage.after_ne_empty {t : List (Event World)} (h : ∃ e ∈ t, e.isCreation = true) :
    monitor.after empty t ≠ empty := by
  -- No event leads back to the state before the creation.
  have hkept : ∀ (u : List (Event World)) (s : Stage), s ≠ empty →
      monitor.after s u ≠ empty := by
    intro u
    induction u with
    | nil => exact fun s hs => hs
    | cons e u ih =>
      intro s hs
      refine ih _ ?_
      cases s with
      | empty => exact absurd rfl hs
      | _ => exact Stage.noConfusion
  induction t with
  | nil => simp at h
  | cons e t ih =>
    change monitor.after (Stage.next empty e) t ≠ empty
    by_cases hnext : Stage.next empty e = empty
    · rw [hnext]
      refine ih ?_
      have he : e.isCreation = false := by
        cases he : e.isCreation with
        | true => simp [Stage.next, he] at hnext
        | false => rfl
      simpa [he] using h
    · exact hkept t _ hnext

theorem lookup_settingsSummary (f : Flow) :
    (settingsSummary f).lookup "Re-entry" = f.reentry.map Reentry.describe := by
  rw [settingsSummary]
  generalize (f.actions.filter _).isEmpty = plain, toString (f.actions.filter _).length = count
  cases plain <;> cases (f.trigger.bind Trigger.filter?).isSome <;> cases f.profileFilter.isSome <;>
    cases f.reentry <;> rfl

namespace Creator

variable (k : Creator)

/-- The result names the re-entry policy of the flow, as the flow describes it. -/
def Names (f : Flow) (r : BuildResult) : Prop :=
  r.settingsApplied.lookup "Re-entry" = f.reentry.map Reentry.describe

/-- The two settings that are added last have other names than the policy. -/
theorem names_completed (f : Flow) (r : BuildResult) (prepared : Precreation) (flowId : Json)
    (outcome : Nat × List String) (images : Nat) :
    Names f (completed f r prepared flowId outcome images) := by
  rw [Names, completed]
  dsimp only
  split <;> split <;> simp [lookup_recordSetting, lookup_settingsSummary]

theorem names_build (f : Flow) :
    (k.build f).Ensures fun _ res => ∀ result, res = .ok result → result.success = true →
      Names f result := by
  refine ensures_build_success fun r prepared flowId => ?_
  refine ensures_complete.mono fun _ _ h result hr => ?_
  obtain ⟨outcome, images, rfl⟩ := h result hr
  exact names_completed f r prepared flowId outcome images

end Creator

namespace Builder

variable (b : Builder)

/-- The result says of the re-entry policy what the trace says of it. -/
def Tells (policy : Reentry) (t : List (Event World)) (r : BuildResult) : Prop :=
  r.settingsApplied.lookup "Re-entry" =
    some (policy.describe ++ if setsReentry t then " (browser)" else "")

theorem tells_of_names {f : Flow} {policy : Reentry} (hpolicy : f.reentry = some policy)
    {t : List (Event World)} {r : BuildResult} (hr : Creator.Names f r)
    (ht : setsReentry t = false) : Tells policy t r := by
  rw [Tells, hr, hpolicy, ht]
  simp

theorem traces_followUp {f : Flow} {policy : Reentry} (hpolicy : f.reentry = some policy)
    {r : BuildResult} (hr : Creator.Names f r) :
    (b.followUp f r).Traces fun u res => ∀ result, res = .ok result → Tells policy u result := by
  unfold followUp
  split
  · refine (b.traces_configureReentry hpolicy r).mono ?_
    rintro u res (⟨_, rfl, warnings, shots, settings, rfl, hsettings⟩ | ⟨e, -, rfl⟩)
    · rintro _ ⟨rfl⟩
      cases hset : setsReentry u with
      | true =>
        rw [if_pos hset] at hsettings
        rw [Tells, hsettings, if_pos rfl, hset, if_pos rfl]
      | false =>
        rw [hset] at hsettings
        obtain ⟨rfl, -⟩ := hsettings
        exact tells_of_names hpolicy hr hset
    · rintro _ ⟨⟩
  · refine .pure ?_
    rintro _ ⟨rfl⟩
    exact tells_of_names hpolicy hr rfl

/-- What a build through the service comes to: no step is performed, and if a flow was created, the
result is a success that names its re-entry policy. -/
theorem traces_buildByService (f : Flow) :
    (b.buildByService f).Traces fun u res => (∀ e ∈ u, Stepless e.call) ∧
      ∀ result, res = .ok result → (result.success = true → Creator.Names f result) ∧
        ((∃ e ∈ u, e.isCreation = true) → result.success = true) := by
  have hnames : (b.buildByService f).Traces fun _ res => ∀ result, res = .ok result →
      result.success = true → Creator.Names f result :=
    b.traces_buildByService_of_build (fun _ k _ => k.names_build f) (by rintro e _ ⟨⟩)
  intro s u res s' hr
  refine ⟨(b.stepless_buildByService f).traces s u res s' hr, fun result hresult => ?_⟩
  refine ⟨hnames s u res s' hr result hresult, fun hcreated => ?_⟩
  rcases (b.holds_buildByService f s).reaches hr with ⟨-, hempty | ⟨-, hsuccess⟩⟩
  · exact absurd hempty (Stage.after_ne_empty hcreated)
  · exact hsuccess result hresult

theorem traces_offline {policy : Reentry} {t : Work BuildResult} (h : t.Calls Offline) :
    t.Traces fun u res => ∀ result, res = .ok result →
      (∃ e ∈ u, e.isCreation = true) → Tells policy u result := by
  refine h.traces.mono ?_
  rintro u res hu result - ⟨e, he, hcreation⟩
  rw [isCreation_of_offline (hu e he)] at hcreation
  cases hcreation

/-- Whatever follows a build through the service may only complete its success. -/
theorem traces_afterService {f : Flow} {policy : Reentry} {g : BuildResult → Work BuildResult}
    (hsuccess : ∀ r, r.success = true → Creator.Names f r → (g r).Traces fun v res =>
      ∀ result, res = .ok result → Tells policy v result)
    (hfailure : ∀ r, r.success = false → (g r).Calls Offline) :
    (b.buildByService f >>= g).Traces fun u res => ∀ result, res = .ok result →
      (∃ e ∈ u, e.isCreation = true) → Tells policy u result := by
  refine (b.traces_buildByService f).bind ?_ (by rintro u e - _ ⟨⟩)
  rintro u r ⟨hu, hr⟩
  obtain ⟨hnames, hcreated⟩ := hr r rfl
  -- After a failure nothing is sent, so a creation would have to be part of the failed build.
  cases hr : r.success with
  | true =>
    refine (hsuccess r hr (hnames hr)).mono ?_
    rintro v res hv result hresult -
    rw [Tells, setsReentry_append_of_stepless hu]
    exact hv result hresult
  | false =>
    refine (hfailure r hr).traces.mono ?_
    rintro v res hv result - ⟨e, he, hcreation⟩
    rcases List.mem_append.mp he with he | he
    · rw [hcreated ⟨e, he, hcreation⟩] at hr
      cases hr
    · rw [isCreation_of_offline (hv e he)] at hcreation
      cases hcreation

theorem traces_buildInMode {f : Flow} {policy : Reentry} (hpolicy : f.reentry = some policy) :
    (b.buildInMode f).Traces fun u res => ∀ result, res = .ok result →
      (∃ e ∈ u, e.isCreation = true) → Tells policy u result := by
  have hbrowser : ∀ g : BuildResult → Work BuildResult, (∀ r, (g r).Calls Offline) →
      (b.buildInBrowser f >>= g).Calls Offline := fun g hg => (b.offline_buildInBrowser f).bind hg
  unfold buildInMode
  cases b.config.mode with
  | api =>
    refine b.traces_afterService (fun r _ hr => b.traces_followUp hpolicy hr) fun r hr => ?_
    rw [followUp, hr]
    exact .pure r
  | browser => exact traces_offline (b.offline_buildInBrowser f)
  | hybrid =>
    dsimp only
    unfold buildHybrid
    split
    · exact traces_offline (.bind (.log _ _) fun _ => hbrowser _ fun _ => .pure _)
    · refine b.traces_afterService (fun r hsuccess hr => ?_) fun r hfailure => ?_
      · rw [if_pos hsuccess]
        exact b.traces_followUp hpolicy hr
      · rw [hfailure]
        exact .bind (.log _ _) fun _ => hbrowser _ fun _ => .pure _

/-- In whatever mode a flow with a re-entry policy is built, a result for a flow that was created
through the service names the policy, and it names the browser just in case a step set the policy
there and its session was closed well. -/
theorem tells_reentry {f : Flow} {policy : Reentry} (hpolicy : f.reentry = some policy)
    {t : List (Event World)} {r : BuildResult}
    (h : Program.Reaches ((b.build f).start ()) t (.done (.ok r, ())))
    (hcreated : ∃ e ∈ t, e.isCreation = true) :
    r.settingsApplied.lookup "Re-entry" =
      some (policy.describe ++ if setsReentry t then " (browser)" else "") := by
  have hbuild : (b.build f).Traces fun u res => ∀ result, res = .ok result →
      (∃ e ∈ u, e.isCreation = true) → Tells policy u result := by
    unfold build
    refine .ofExcept_bind (fun verdict _ => ?_) (by rintro e - _ ⟨⟩)
    split
    · refine .throw ?_
      rintro _ ⟨⟩
    · have hplain : (verdict.warnings.forM (Task.log .warning ·) : Work PUnit).Calls Plain :=
        .logs _ _
      have hstepless : (verdict.warnings.forM (Task.log .warning ·) : Work PUnit).Calls Stepless :=
        .logs _ _
      refine (hplain.traces.and hstepless.traces).bind ?_ (by rintro u e - _ ⟨⟩)
      rintro u _ ⟨hu, hstepless⟩
      refine (b.traces_buildInMode hpolicy).bind ?_ (by rintro v e - _ ⟨⟩)
      intro v r hr
      refine .pure ?_
      rintro _ ⟨rfl⟩ ⟨e, he, hcreation⟩
      rw [List.append_nil] at he ⊢
      have hv : ∃ e ∈ v, e.isCreation = true := by
        rcases List.mem_append.mp he with he | he
        · rw [isCreation_of_plain (hu e he)] at hcreation
          cases hcreation
        · exact ⟨e, he, hcreation⟩
      rw [Tells, setsReentry_append_of_stepless hstepless]
      exact hr r rfl hv
  exact hbuild () t _ () h r rfl hcreated

/-- A configuration without a session for the browser. -/
def forgetful : Builder :=
  { nearby with config := { nearby.config with storageState := .null } }

/-- The policy is named although nothing was done about it. -/
theorem greeting_tells :
    ∃ t r, Program.Reaches ((forgetful.build .greeting).start ()) t (.done (.ok r, ())) ∧
      r.success = true ∧ performances t = [] ∧
      r.settingsApplied.lookup "Re-entry" = some "once" := by
  have hlast : (fun x : List (Event World) × Program World (Except Failure BuildResult × Unit) =>
      (x.2.result?.bind fun y => y.1.toOption.map BuildResult.success, x.1.any Event.isCreation,
        (performances x.1).length))
      (Program.record World.smooth 40 ((forgetful.build .greeting).start ())) =
        (some true, true, 0) := by
    simp only [build, validate_greeting, buildInMode, buildHybrid, buildByService, nearby,
      forgetful, Creator.build, Creator.precreate, Payload.ofFlow, Flow.traverse_greeting,
      Creator.create, Client.createFlow, Client.send, Client.request, Content.toBody_document]
    decide +kernel
  obtain ⟨hlast, hcreated, hperformances⟩ : _ ∧ _ ∧ _ := by simpa only [Prod.mk.injEq] using hlast
  obtain ⟨⟨res, s⟩, hlast, hres⟩ := Option.bind_eq_some_iff.mp hlast
  obtain ⟨r, rfl⟩ : ∃ r, res = .ok r := by
    cases res with
    | error e => cases hres
    | ok r => exact ⟨r, rfl⟩
  have hsuccess : r.success = true := by simpa [Except.toOption] using hres
  have hrun := Program.reaches_of_record hlast
  have hnone := List.length_eq_zero_iff.mp hperformances
  refine ⟨_, r, hrun, hsuccess, hnone, ?_⟩
  rw [forgetful.tells_reentry rfl hrun (List.any_eq_true.mp hcreated), setsReentry, stepped, hnone]
  rfl

end Builder

end MarketingFlow
