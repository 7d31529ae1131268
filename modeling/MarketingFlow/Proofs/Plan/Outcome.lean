import MarketingFlow.Proofs.Flow.ValidGraph
import MarketingFlow.Proofs.Interaction.Endings
import MarketingFlow.Proofs.Outcome
import MarketingFlow.Proofs.Plan.Handling
import MarketingFlow.Proofs.Service.Stages

/-!
# What comes of a plan

The plan of a valid flow is carried out to its end, whatever the visual builder does. Its result
says which steps succeeded: the run fails with the flow and its trigger only, and of the actions
those count as created whose steps all succeeded.
-/

namespace MarketingFlow.Plan

open Outcome

/-! ## The whole plan -/

theorem map_entry_numberSteps (entries : List Entry) :
    (numberSteps entries).map entry = entries := by
  rw [numberSteps, List.map_map]
  exact List.zipIdx_map_fst 0 entries

theorem nodup_index_numberSteps (entries : List Entry) :
    ((numberSteps entries).map Step.index).Nodup := by
  have hindex : (numberSteps entries).map Step.index =
      (List.range' 0 entries.length).map Int.ofNat := by
    rw [← List.zipIdx_map_snd 0 entries, numberSteps, List.map_map, List.map_map]
    rfl
  rw [hindex]
  exact (List.nodup_range' ..).map fun _ _ h => Int.ofNat.inj h

theorem steps_ofFlow {f : Flow} {plan : Plan} (h : ofFlow f = .ok plan) :
    ∃ ordered trigger, f.traverse = .ok ordered ∧
      plan.steps.map entry =
        ⟨.createFlow, none, [("name", f.name)], true⟩ ::
          ⟨.selectTrigger, none, trigger, true⟩ ::
            (ordered.flatMap (actionEntries f.settings) ++
              (f.reentry.map fun r => ⟨.setReentry, none, reentryParams r, false⟩).toList) ∧
      (plan.steps.map Step.index).Nodup ∧ plan.actionOrder = ordered.map Action.id := by
  obtain ⟨trigger, -, h⟩ := bind_eq_ok_iff.mp h
  obtain ⟨ordered, ht, h⟩ := bind_eq_ok_iff.mp h
  cases h
  refine ⟨ordered, trigger, ht, ?_, ?_, rfl⟩
  · rw [map_entry_numberSteps]
    cases f.reentry <;> rfl
  · exact nodup_index_numberSteps _

/-- The steps of a plan: two critical ones for the flow and its trigger, those of the actions in the
order of traversal, and what is left to do for the flow. -/
structure Layout (f : Flow) (plan : Plan) (ordered : List Action) (create select : Step)
    (actions last : List Step) : Prop where
  steps : plan.steps = create :: select :: (actions ++ last)
  index : (plan.steps.map Step.index).Nodup
  order : plan.actionOrder = ordered.map Action.id
  creates : create.operation = .createFlow
  selects : select.operation = .selectTrigger
  critical : create.critical = true ∧ select.critical = true
  unowned : create.owner? = none ∧ select.owner? = none
  entries : actions.map entry = ordered.flatMap (actionEntries f.settings)
  plain : ∀ s ∈ last, s.owner? = none ∧ s.critical = false

theorem layout_ofFlow {f : Flow} {plan : Plan} (h : ofFlow f = .ok plan) :
    ∃ ordered create select actions last, f.traverse = .ok ordered ∧
      Layout f plan ordered create select actions last := by
  obtain ⟨ordered, trigger, ht, hentries, hindex, horder⟩ := steps_ofFlow h
  obtain ⟨create, steps₁, hsteps, hcreate, hentries₁⟩ := List.map_eq_cons_iff.mp hentries
  obtain ⟨select, steps₂, rfl, hselect, hentries₂⟩ := List.map_eq_cons_iff.mp hentries₁
  obtain ⟨actions, last, rfl, hactions, hlast⟩ := List.map_eq_append_iff.mp hentries₂
  obtain ⟨hcreateOp, hcreateId, -, hcreateCritical⟩ := Entry.mk.inj hcreate
  obtain ⟨hselectOp, hselectId, -, hselectCritical⟩ := Entry.mk.inj hselect
  refine ⟨ordered, create, select, actions, last, ht, {
    steps := hsteps
    index := hindex
    order := horder
    creates := hcreateOp
    selects := hselectOp
    critical := ⟨hcreateCritical, hselectCritical⟩
    unowned := ⟨owner?_eq_none_of_entry hcreateId, owner?_eq_none_of_entry hselectId⟩
    entries := hactions
    plain := fun s hs => ?_ }⟩
  have hmem := hlast ▸ List.mem_map_of_mem hs
  obtain ⟨r, -, hr⟩ := Option.map_eq_some_iff.mp (Option.mem_toList.mp hmem)
  obtain ⟨-, hid, -, hcritical⟩ := Entry.mk.inj hr
  exact ⟨owner?_eq_none_of_entry hid.symm, hcritical.symm⟩

theorem Layout.ne {f : Flow} {plan : Plan} {ordered : List Action} {create select : Step}
    {actions last : List Step} (l : Layout f plan ordered create select actions last) :
    select ≠ create := by
  rintro rfl
  have hoperation := l.creates.symm.trans l.selects
  cases hoperation

open scoped Classical in
/-- What an execution reports, given the performances. -/
structure Reports (f : Flow) (plan : Plan) (most : Nat) (w : List (Step × Bool))
    (e : Execution) : Prop where
  steps : ∀ s, Tried w s → s ∈ plan.steps
  attempts : ∀ i, (w.countP fun x => x.1.index == i) ≤ most
  success : ∃ create trigger rest, plan.steps = create :: trigger :: rest ∧
    create.operation = .createFlow ∧ trigger.operation = .selectTrigger ∧
    (e.success = true ↔ Done w create ∧ Done w trigger)
  stop : e.success = false → e.actionsCreated = 0 ∧
    ∃ before failing after, plan.steps = before ++ failing :: after ∧
      (failing.operation = .createFlow ∨ failing.operation = .selectTrigger) ∧
      Tried w failing ∧ ¬ Done w failing ∧ ∀ s ∈ after, ¬ Tried w s
  performed : e.success = true → ∀ s ∈ plan.steps,
    s.operation = .addAction ∨ s.operation = .setReentry ∨ s.owner? = none → Tried w s
  actions : e.success = true → ∀ a ∈ f.actions, ∃ add configure,
    ownedBy plan.steps a.id = [add, configure] ∧ add.operation = .addAction ∧
      configure.operation = (configuration a f.settings).1 ∧ Tried w add ∧
      (Tried w configure ↔ Done w add)
  created : e.success = true → e.actionsCreated =
    f.actions.countP fun a => ∀ s ∈ ownedBy plan.steps a.id, Done w s

variable {f : Flow} {plan : Plan} {most : Nat} {w : List (Step × Bool)} {q : Progress}

/-- The execution that comes of a progress. -/
def report (plan : Plan) (q : Progress) : Execution :=
  { flowName := plan.flowName
    results := q.results
    warnings := q.warnings
    screenshots := q.screenshots
    error := q.error
    actionsCreated := (plan.created q).length }

/-- If no step of an action was reached, no action was created. -/
theorem created_eq_nil (h : ∀ s ∈ q.results.map StepResult.step, s.owner? = none) :
    plan.created q = [] := by
  have hreached : (q.results.filterMap fun r => r.step.owner?) = [] := by
    refine List.filterMap_eq_nil_iff.mpr fun r hr => ?_
    exact h r.step (List.mem_map_of_mem hr)
  simp [created, hreached]

open scoped Classical in
/-- Once all steps were reached, the created actions are those whose steps all succeeded. -/
theorem length_created {ordered : List Action} (horder : plan.actionOrder = ordered.map Action.id)
    (hperm : ordered.Perm f.actions) (hresults : q.results.map StepResult.step = plan.steps)
    (hhandled : ∀ a ∈ ordered, ∃ add configure,
      Handled f.settings plan.steps w q.failed a add configure) :
    (plan.created q).length =
      f.actions.countP fun a => ∀ s ∈ ownedBy plan.steps a.id, Done w s := by
  have hreached : (q.results.filterMap fun r => r.step.owner?) =
      plan.steps.filterMap Step.owner? := by
    rw [← hresults, List.filterMap_map]
    rfl
  rw [created, hreached, horder, List.filter_map, List.length_map, ← List.countP_eq_length_filter,
    ← hperm.countP_eq]
  refine List.countP_congr fun a ha => ?_
  obtain ⟨add, configure, h⟩ := hhandled a ha
  have hplanned : ∃ s ∈ plan.steps, s.owner? = some a.id := by
    have hmem : add ∈ ownedBy plan.steps a.id := by
      rw [h.owned]
      exact .head _
    exact ⟨add, (List.mem_filter.mp hmem).1, h.owner?_eq add (.head _)⟩
  simp [hplanned, h.owned, h.failed]

section

variable {ordered : List Action} {create select : Step} {actions last : List Step}
  (l : Layout f plan ordered create select actions last)
  (h : Carried most plan.steps (Progress.start plan.warnings) w q)

include l h

/-- The run ended with the flow or its trigger. -/
theorem reports_of_stop (before after : List Step) (failing : Step)
    (hsplit : plan.steps = before ++ failing :: after)
    (hfailing : failing = create ∨ failing = select) (htried : Tried w failing)
    (hdone : ¬ Done w failing) (hreached : ∀ s, Tried w s → s ∈ before ++ [failing])
    (herror : q.error.isSome = true)
    (hresults : ∀ s ∈ q.results.map StepResult.step, s.owner? = none) :
    Reports f plan most w (report plan q) := by
  have hfail : (report plan q).success = false := by
    simp [Execution.success, report, herror]
  have hnodup : (before ++ [failing] ++ after).Nodup := by
    rw [List.append_assoc, List.singleton_append, ← hsplit]
    exact .of_map _ l.index
  refine ⟨fun s hs => h.mem_of_tried hs, h.countP_le l.index,
    ⟨create, select, _, l.steps, l.creates, l.selects, ?_⟩, fun _ => ⟨?_, before, failing, after,
      hsplit, ?_, htried, hdone, ?_⟩, ?_, ?_, ?_⟩
  · rw [hfail]
    rcases hfailing with rfl | rfl <;> simp [hdone]
  · rw [report, created_eq_nil hresults]
    rfl
  · rcases hfailing with rfl | rfl
    · exact .inl l.creates
    · exact .inr l.selects
  · intro s hs hs'
    exact (List.nodup_append.mp hnodup).2.2 s (hreached s hs') s hs rfl
  all_goals
    intro hsuccess
    rw [hfail] at hsuccess
    cases hsuccess

/-- The run got past the flow and its trigger. -/
theorem reports_of_completion {n m : Nat} {p : Progress} {v : List (Step × Bool)}
    (hids : (ordered.map Action.id).Nodup) (hnamed : ∀ a ∈ ordered, a.id ≠ "")
    (hperm : ordered.Perm f.actions) (hw : w = tries create n true ++ (tries select m true ++ v))
    (hfailed : p.failed = []) (herror : p.error = none)
    (hresults : p.results.map StepResult.step = [create, select])
    (hrest : Carried most (actions ++ last) p v q) : Reports f plan most w (report plan q) := by
  subst hw
  obtain ⟨hcreateOwner, hselectOwner⟩ := l.unowned
  have hnodup : actions.Nodup := by
    have hsteps : (create :: select :: (actions ++ last)).Nodup := l.steps ▸ .of_map _ l.index
    exact (List.nodup_append.mp (List.nodup_cons.mp (List.nodup_cons.mp hsteps).2).2).1
  have hfresh : ∀ a ∈ ordered, a.id ∉ p.failed := by simp [hfailed]
  have hlastOwner : ∀ s ∈ last, s.owner? = none := fun s hs => (l.plain s hs).1
  have hlastPlain : ∀ s ∈ last, s.critical = false := fun s hs => (l.plain s hs).2
  obtain ⟨hend, hreached⟩ := hrest.passes
    (List.forall_mem_append.mpr ⟨critical_of_mem l.entries, hlastPlain⟩)
  have hhandled : ∀ a ∈ ordered, ∃ add configure, Handled f.settings plan.steps
      (tries create n true ++ (tries select m true ++ v)) q.failed a add configure := by
    intro a ha
    obtain ⟨add, configure, hhandled⟩ :=
      handled_actions_append hnamed hids l.entries hnodup hfresh hlastOwner hrest a ha
    have haround := hhandled.around [create, select] [] (tries create n true ++ tries select m true)
      [] (by simp [hcreateOwner, hselectOwner]) (by simp) (by simp) (by simp) Iff.rfl
    refine ⟨add, configure, ?_⟩
    rw [l.steps]
    simpa using haround
  have hsuccess : (report plan q).success = true := by
    simp [Execution.success, report, hend, herror]
  refine ⟨fun s hs => h.mem_of_tried hs, h.countP_le l.index,
    ⟨create, select, _, l.steps, l.creates, l.selects, ?_⟩, ?_, fun _ s hs hkind => ?_, ?_, ?_⟩
  · simp [hsuccess]
  · rw [hsuccess]
    intro hfail
    cases hfail
  · rw [l.steps] at hs
    rcases List.mem_cons.mp hs with rfl | hs
    · simp
    · rcases List.mem_cons.mp hs with rfl | hs
      · simp
      · have htried := tried_of_kind hnamed hids l.entries hnodup hfresh hlastOwner hlastPlain hrest
          hs hkind
        simp [htried]
  · intro _ a ha
    obtain ⟨add, configure, ha⟩ := hhandled a (hperm.mem_iff.mpr ha)
    exact ⟨add, configure, ha.owned, ha.adds, ha.configures, ha.added, ha.configured⟩
  · refine fun _ => length_created l.order hperm ?_ hhandled
    rw [hreached, hresults, l.steps]
    rfl

end

theorem reports_of_carried {v : Verdict} (hv : f.validate = .ok v) (hvalid : v.valid = true)
    (hplan : ofFlow f = .ok plan)
    (h : Carried most plan.steps (Progress.start plan.warnings) w q) :
    Reports f plan most w (report plan q) := by
  obtain ⟨ordered, create, select, actions, last, ht, l⟩ := layout_ofFlow hplan
  have hlinked := Flow.linked_of_valid hv hvalid
  have henumerates := hlinked.enumerates ht
  have hperm := henumerates.perm hlinked.ids
  have hnamed : ∀ a ∈ ordered, a.id ≠ "" := fun a ha =>
    Flow.id_ne_empty_of_valid hv hvalid a (hperm.mem_iff.mp ha)
  obtain ⟨hcreateOwner, hselectOwner⟩ := l.unowned
  have hrun := h
  rw [l.steps] at hrun
  rcases hrun.of_critical (skips_of_unowned hcreateOwner) l.critical.1 with
    ⟨n, p₁, w₁, rfl, hp₁, hrun₁⟩ | ⟨n, rfl, herror, hresults⟩
  · rcases hrun₁.of_critical (skips_of_unowned hselectOwner) l.critical.2 with
      ⟨m, p₂, w₂, rfl, hp₂, hrun₂⟩ | ⟨m, rfl, herror, hresults⟩
    · refine reports_of_completion l h henumerates.nodup hnamed hperm rfl ?_ ?_ ?_ hrun₂
      · simp [hp₂.failed, hp₁.failed, Progress.start]
      · rw [hp₂.error, hp₁.error]
        rfl
      · rw [hp₂.results, hp₁.results]
        rfl
    · refine reports_of_stop l h [create] _ select l.steps (.inr rfl) (by simp) (by simp [l.ne])
        (by simp) herror ?_
      rw [hresults, hp₁.results]
      simp [Progress.start, hcreateOwner, hselectOwner]
  · refine reports_of_stop l h [] _ create l.steps (.inl rfl) (by simp) (by simp) (by simp) herror
      ?_
    rw [hresults]
    simp [Progress.start, hcreateOwner]

variable {σ : Type}

theorem ends_execute (plan : Plan) (o : RetryOptions Number) :
    (plan.execute o : Task σ Execution).Ends := by
  have hperform : ∀ s, (performStep s : Task σ Unit).Ends := by
    intro s
    unfold performStep
    exact .bind (.ask _) fun _ => .ofExcept _
  have hcapture : ∀ s, (capture s : Task σ Json).Ends := by
    intro s
    unfold capture takeScreenshot
    refine .bind (.result (.bind (.ask _) fun _ => .ofExcept _)) fun _ => ?_
    grind
  have hsteps : ∀ steps p, (runSteps o steps p : Task σ Progress).Ends := by
    intro steps
    induction steps with
    | nil =>
      unfold runSteps
      grind
    | cons s rest ih =>
      unfold runSteps
      grind
  unfold execute
  exact .bind (hsteps _ _) fun _ => .pure _

theorem traces_execute (plan : Plan) (o : RetryOptions Number) :
    (plan.execute o : Task σ Execution).Traces fun u r => ∃ q, r = .ok (report plan q) ∧
      Carried o.attempts plan.steps (Progress.start plan.warnings) (performances u) q := by
  unfold execute
  refine (traces_runSteps o plan.steps _).bind ?_ ?_
  · rintro u p ⟨q, hq, hu⟩
    cases hq
    exact .pure ⟨p, rfl, by rwa [List.append_nil]⟩
  · rintro u e ⟨q, hq, -⟩
    cases hq

/-- The plan of a valid flow is carried out to its end, and the result tells what was performed. -/
theorem execute_reports {f : Flow} {v : Verdict} (hv : f.validate = .ok v)
    (hvalid : v.valid = true) {plan : Plan} (hplan : ofFlow f = .ok plan)
    (o : RetryOptions Number) (s : σ) :
    ((plan.execute o).start s).Ends ∧
      ∀ t r s', Program.Reaches ((plan.execute o).start s) t (.done (r, s')) →
        ∃ e, r = .ok e ∧ Reports f plan o.attempts (performances t) e := by
  refine ⟨ends_execute plan o s, fun t r s' hr => ?_⟩
  obtain ⟨q, rfl, hcarried⟩ := traces_execute plan o s t r s' hr
  exact ⟨_, rfl, reports_of_carried hv hvalid hplan hcarried⟩

/-! ## A step that fails -/

/-- An outside where waits cannot be configured. -/
def clumsy : (c : World.Call) → World.Answer c
  | .perform s =>
    (if s.operation = .configureDelay then .error (Failure.value "no such field") else .ok () :
      Except Failure Unit)
  | c => World.smooth c

/-- Two attempts without a pause. -/
def twice : RetryOptions Number :=
  ⟨2, .int 0, .int 1, .int 0, []⟩

/-- The wait is left unconfigured; the split and the emails are created. -/
theorem fork_reports :
    ∃ v plan t e, Flow.fork.validate = .ok v ∧ v.valid = true ∧ ofFlow .fork = .ok plan ∧
      Program.Reaches ((plan.execute twice).start ()) t (.done (.ok e, ())) ∧
      e.success = true ∧ e.actionsCreated = 3 ∧ Reports .fork plan 2 (performances t) e := by
  obtain ⟨plan, hplan⟩ : ∃ plan, ofFlow .fork = .ok plan := by
    rw [ofFlow, Flow.traverse_fork]
    exact ⟨_, rfl⟩
  have hlast : ((Program.record clumsy 60 ((plan.execute twice).start ())).2.result?.bind
      fun x => x.1.toOption.map fun e => (e.success, e.actionsCreated)) = some (true, 3) := by
    have hmade := hplan
    rw [ofFlow, Flow.traverse_fork] at hmade
    cases hmade
    decide +kernel
  obtain ⟨⟨r, s'⟩, hlast, hr⟩ := Option.bind_eq_some_iff.mp hlast
  have hrun := Program.reaches_of_record hlast
  obtain ⟨e, rfl, hreports⟩ :=
    (execute_reports Flow.validate_fork rfl hplan twice ()).2 _ _ _ hrun
  obtain ⟨hsuccess, hcreated⟩ : e.success = true ∧ e.actionsCreated = 3 := by
    simpa [Except.toOption] using hr
  exact ⟨_, plan, _, e, Flow.validate_fork, rfl, hplan, hrun, hsuccess, hcreated, hreports⟩

end MarketingFlow.Plan
