import MarketingFlow.Build.Builder
import MarketingFlow.Proofs.Http.Body
import MarketingFlow.Proofs.Service.OneCreation

/-!
# A build creates one flow

In whatever mode a flow is built, and whatever the service and the visual builder answer, at most
one flow is created through the service, and with it no other one by steps.
-/

namespace MarketingFlow

/-- Nothing is sent to the service. -/
def World.Call.Offline : World.Call → Prop
  | .send _ => False
  | _ => True

instance : World.Call.Talks World.Call.Offline where
  log _ _ := trivial
  sleep _ := trivial

open Stage World.Call
open Creator (Built built_error)

variable {σ α : Type}

/-! ## Carrying out a plan -/

namespace Plan

variable {P : World.Call → Prop} [Talks P] (hshot : ∀ name, P (.screenshot name))

include hshot

theorem calls_runSteps {steps : List Step} (hstep : ∀ s ∈ steps, P (.perform s))
    (retry : RetryOptions Number) (p : Progress) :
    (runSteps retry steps p : Task σ Progress).Calls P := by
  have hperform : ∀ s ∈ steps, (performStep s : Task σ Unit).Calls P := by
    intro s hs
    unfold performStep
    exact .bind (.ask (hstep s hs)) fun _ => .ofExcept _
  have hcapture : ∀ s, (capture s : Task σ Json).Calls P := by
    intro s
    unfold capture takeScreenshot
    refine .bind (.result (.bind (.ask (hshot _)) fun _ => .ofExcept _)) fun _ => ?_
    grind
  induction steps generalizing p with
  | nil =>
    unfold runSteps
    grind
  | cons s rest ih =>
    unfold runSteps
    grind

theorem calls_execute {plan : Plan} (hstep : ∀ s ∈ plan.steps, P (.perform s))
    (retry : RetryOptions Number) : (plan.execute retry : Task σ Execution).Calls P := by
  unfold execute
  exact .bind (calls_runSteps hshot hstep retry _) fun _ => .pure _

end Plan

namespace Builder

variable (b : Builder)

theorem calls_inSession {P : World.Call → Prop} (hopen : P .openSession)
    (hclose : ∀ endedWell, P (.closeSession endedWell)) {t : Work α} (h : t.Calls P) :
    (inSession t).Calls P := by
  unfold inSession
  refine .bind (.ask hopen) fun _ => .bind (.ofExcept _) fun _ => .bind h.result fun r => ?_
  cases r with
  | ok a => exact .bind (.ask (hclose true)) fun _ => .bind (.ofExcept _) fun _ => .pure a
  | error e => exact .bind (.ask (hclose false)) fun _ => .throw e

/-- Setting the re-entry policy is all that a follow-up does in the visual builder. -/
theorem plain_followUp (f : Flow) (r : BuildResult) : (b.followUp f r).Calls Plain := by
  have hset : ∀ policy flowId retry, (setReentry f policy flowId retry).Calls Plain := by
    intro policy flowId retry
    refine calls_inSession trivial (fun _ => trivial) ?_
    refine .bind (.retry (.bind (.ask trivial) fun _ => .ofExcept _)) fun _ => ?_
    refine Plan.calls_execute (fun _ => trivial) ?_ retry
    simp [reentryPlan, Plain]
  unfold followUp configureReentry
  grind

theorem offline_buildInBrowser (f : Flow) : (b.buildInBrowser f).Calls Offline := by
  have hcarryOut : ∀ plan, (b.carryOut plan).Calls Offline := by
    intro plan
    refine calls_inSession trivial (fun _ => trivial) ?_
    refine .bind (.ofExcept _) fun retry => ?_
    refine .bind (Plan.calls_execute (fun _ => trivial) (fun _ _ => trivial) retry) fun _ => ?_
    refine .bind (.bind (.ask trivial) fun _ => .ofExcept _) fun _ => ?_
    exact .bind (.ask trivial) fun _ => .pure _
  unfold buildInBrowser Plan.announce
  grind

/-- Without the service, no flow is created through it. -/
theorem holds_buildInBrowser (f : Flow) :
    (b.buildInBrowser f).Holds monitor (fun s _ => s ≠ created) empty := by
  refine (b.offline_buildInBrowser f).holds (M := monitor) (K := fun s => s ≠ created) ?_
    (fun _ _ => trivial) (show empty ≠ created by decide)
  intro c answer s hc hs
  have hcreation : Event.isCreation ⟨c, answer⟩ = false := by
    cases c with
    | send r => exact hc.elim
    | _ => rfl
  cases s with
  | empty =>
    refine ⟨trivial, ?_⟩
    change Stage.next empty ⟨c, answer⟩ ≠ created
    simp only [Stage.next, hcreation, Bool.false_eq_true, if_false]
    split <;> decide
  | created => exact absurd rfl hs
  | begun => exact ⟨hcreation, hs⟩

theorem holds_plain {t : Work α} (h : t.Calls Plain) (s : Stage) :
    t.Holds monitor (fun s' _ => s' = s) s :=
  h.holds_of_keeps (keeps_plain s) trivial

theorem holds_buildByService (f : Flow) : (b.buildByService f).Holds monitor Built empty := by
  have hconnect : b.connect.Calls Plain := by
    unfold connect
    exact .bind (.ofExcept _) fun c => .bind (.ask trivial) fun _ => .ofExcept _
  have hbuild : ∀ k : Creator, ((k.build f).within (fun _ => .empty) fun s _ => s :
      Work BuildResult).Holds monitor Built empty := fun k => (k.holds_build_stage f).within
  have hnone : ∀ e, Built empty (.error e) := fun e => built_error (.inl rfl)
  have hcreator : ∀ c, (Task.ofExcept (b.creator c) >>= fun k =>
      ((k.build f).within (fun _ => .empty) fun s _ => s : Work BuildResult)).Holds monitor Built
        empty := fun c => .ofExcept_bind (fun k _ => hbuild k) fun e _ => hnone e
  unfold buildByService
  cases b.client with
  | some c => exact (Task.Calls.pure c).kept_bind (keeps_plain empty) trivial hcreator hnone
  | none => exact hconnect.kept_bind (keeps_plain empty) trivial hcreator hnone

theorem holds_buildHybrid (f : Flow) :
    (b.buildHybrid f).Holds monitor (fun _ _ => True) empty := by
  have hbrowser : ∀ g : BuildResult → Work BuildResult, (∀ r, (g r).Calls Plain) →
      (b.buildInBrowser f >>= g).Holds monitor (fun _ _ => True) empty := by
    intro g hg
    refine (b.holds_buildInBrowser f).bind ?_ fun _ _ _ => trivial
    exact fun s r _ => (holds_plain (hg r) s).mono fun _ _ _ => trivial
  unfold buildHybrid
  split
  · exact .log_bind discreet_monitor (hbrowser _ fun _ => .pure _)
  · refine (b.holds_buildByService f).bind ?_ fun _ _ _ => trivial
    intro s tried hs
    split
    · exact (holds_plain (b.plain_followUp f _) s).mono fun _ _ _ => trivial
    · rename_i hfailed
      have hempty : s = empty := by
        rcases hs with hs | ⟨-, hsuccess⟩
        · exact hs
        · exact absurd (hsuccess tried rfl) hfailed
      subst hempty
      exact .log_bind discreet_monitor (hbrowser _ fun _ => .pure _)

theorem holds_buildInMode (f : Flow) :
    (b.buildInMode f).Holds monitor (fun _ _ => True) empty := by
  unfold buildInMode
  cases b.config.mode with
  | api =>
    refine (b.holds_buildByService f).bind ?_ fun _ _ _ => trivial
    exact fun s r _ => (holds_plain (b.plain_followUp f r) s).mono fun _ _ _ => trivial
  | browser => exact (b.holds_buildInBrowser f).mono fun _ _ _ => trivial
  | hybrid => exact b.holds_buildHybrid f

theorem holds_build (f : Flow) : (b.build f).Holds monitor (fun _ _ => True) empty := by
  unfold build
  refine .ofExcept_bind (fun verdict _ => ?_) fun _ _ => trivial
  split
  · exact .throw trivial
  · refine (Task.Calls.logs _ _).kept_bind (keeps_plain empty) trivial (fun _ => ?_)
      fun _ => trivial
    exact (b.holds_buildInMode f).bind (fun _ _ _ => .pure trivial) fun _ _ _ => trivial

/-- At every moment of a build at most one flow has been created through the service, and if one
has, no step has been performed but such as set its re-entry policy. -/
theorem creates_once (f : Flow) {t : List (Event World)}
    {q : Program World (Except Failure BuildResult × Unit)}
    (h : Program.Reaches ((b.build f).start ()) t q) :
    t.countP Event.isCreation ≤ 1 ∧
      ((∃ e ∈ t, e.isCreation = true) →
        ∀ s r, ⟨.perform s, r⟩ ∈ t → s.operation = .setReentry) := by
  obtain ⟨ht, -⟩ := (b.holds_build f ()).reaches h
  obtain ⟨hcount, hsteps⟩ := accepts_empty ht
  refine ⟨hcount, fun hcreated s r hs => ?_⟩
  simpa [Event.isBuilding] using hsteps hcreated _ hs

theorem validate_greeting : Flow.greeting.validate = .ok ⟨[], []⟩ := by
  cbv

def nearby : Builder :=
  ⟨{ mode := .hybrid, storageState := .str "s.json", pacingDelay := .int 0 }, some Client.nearby⟩

/-- A hybrid build creates a flow and goes on to set its re-entry policy. -/
theorem greeting_created_once :
    let t := (Program.record World.smooth 15 ((nearby.build Flow.greeting).start ())).1
    t.countP Event.isCreation = 1 ∧
      ∀ s r, ⟨.perform s, r⟩ ∈ t → s.operation = .setReentry := by
  intro t
  have hcount : t.countP Event.isCreation = 1 := by
    simp only [t, build, validate_greeting, buildInMode, buildHybrid, buildByService, nearby,
      Creator.build, Creator.precreate, Payload.ofFlow, Flow.traverse_greeting, Creator.create,
      Client.createFlow, Client.send, Client.request, Content.toBody_document]
    decide +kernel
  obtain ⟨-, hsteps⟩ := nearby.creates_once Flow.greeting (Program.reaches_record World.smooth 15 _)
  refine ⟨hcount, hsteps ?_⟩
  exact List.countP_pos_iff.mp (Nat.lt_of_lt_of_eq Nat.zero_lt_one hcount.symm)

end Builder

end MarketingFlow
