import MarketingFlow.Proofs.Plan.Account

/-!
# Which actions count as created

An action counts as created if it was reached and none of its ordinary steps failed. These are the
completed actions, all of whose steps were performed with success, and those that the end of the run
cut off: the step that ended it was one of theirs, or they have a step that was not reached. A run
that nothing ends counts the completed ones only.
-/

namespace MarketingFlow

namespace StepResult

variable {r : StepResult}

theorem failed_of_stops (h : r.stops = true) : r.failed = true := by
  rw [stops, Bool.and_eq_true] at h
  exact h.1

theorem stops_or_warns_of_failed (h : r.failed = true) : r.stops = true ∨ r.warns = true := by
  cases hcritical : r.step.critical with
  | true => exact .inl (by simp [stops, h, hcritical])
  | false => exact .inr (by simp [warns, h, hcritical])

end StepResult

namespace Plan

/-- The action has steps, and each of them was performed with success. -/
def Completed (plan : Plan) (rs : List StepResult) (id : String) : Prop :=
  (∃ s ∈ plan.steps, s.owner? = some id) ∧
    ∀ (i : Nat) s, plan.steps[i]? = some s → s.owner? = some id →
      ∃ r, rs[i]? = some r ∧ r.success = true

/-- The action was reached, and none of its ordinary steps failed. -/
structure Begun (rs : List StepResult) (id : String) : Prop where
  reached : ∃ r ∈ rs, r.step.owner? = some id
  unfailed : ∀ r ∈ rs, r.step.owner? = some id → r.warns = false

/-- The run ended with a step of an action that had begun, or before one. -/
structure CutOff (plan : Plan) (rs : List StepResult) (id : String) : Prop extends
    Begun rs id where
  ended : (∃ r ∈ rs, r.step.owner? = some id ∧ r.stops = true) ∨
    ∃ s ∈ plan.steps.drop rs.length, s.owner? = some id

section

variable {plan : Plan} {most : Nat} {rs : List StepResult} {w : List (Step × Bool)} {id : String}

theorem getElem?_steps (h : rs.map StepResult.step <+: plan.steps) {i : Nat} {r : StepResult}
    (hr : rs[i]? = some r) : plan.steps[i]? = some r.step := by
  obtain ⟨rest, hrest⟩ := h
  obtain ⟨hi, -⟩ := List.getElem?_eq_some_iff.mp hr
  rw [← hrest, List.getElem?_append_left (by simpa using hi), List.getElem?_map, hr]
  rfl

theorem Completed.success (h : Completed plan rs id)
    (hsteps : rs.map StepResult.step <+: plan.steps) {r : StepResult} (hr : r ∈ rs)
    (howner : r.step.owner? = some id) : r.success = true := by
  obtain ⟨i, hi⟩ := List.mem_iff_getElem?.mp hr
  obtain ⟨r', hr', hsuccess⟩ := h.2 i r.step (getElem?_steps hsteps hi) howner
  rw [hi] at hr'
  cases hr'
  exact hsuccess

theorem Completed.unfailed (h : Completed plan rs id)
    (hsteps : rs.map StepResult.step <+: plan.steps) {r : StepResult} (hr : r ∈ rs)
    (howner : r.step.owner? = some id) : r.failed = false := by
  rw [StepResult.failed, h.success hsteps hr howner]
  rfl

theorem Completed.begun (h : Completed plan rs id)
    (hsteps : rs.map StepResult.step <+: plan.steps) : Begun rs id where
  reached := by
    obtain ⟨s, hs, howner⟩ := h.1
    obtain ⟨i, hi⟩ := List.mem_iff_getElem?.mp hs
    obtain ⟨r, hr, -⟩ := h.2 i s hi howner
    have hstep := getElem?_steps hsteps hr
    rw [hi] at hstep
    cases hstep
    exact ⟨r, List.mem_of_getElem? hr, howner⟩
  unfailed r hr howner := by
    rw [StepResult.warns, h.unfailed hsteps hr howner]
    rfl

theorem Completed.not_cutOff (h : Completed plan rs id)
    (hsteps : rs.map StepResult.step <+: plan.steps) : ¬ CutOff plan rs id := by
  intro hcut
  rcases hcut.ended with ⟨r, hr, howner, hstops⟩ | ⟨s, hs, howner⟩
  · have hfailed := StepResult.failed_of_stops hstops
    rw [h.unfailed hsteps hr howner] at hfailed
    cases hfailed
  · obtain ⟨i, hi⟩ := List.mem_iff_getElem?.mp hs
    rw [List.getElem?_drop] at hi
    obtain ⟨r, hr, -⟩ := h.2 _ s hi howner
    rw [List.getElem?_eq_none (Nat.le_add_right ..)] at hr
    cases hr

/-- An action that has begun and was not cut off is completed. -/
theorem Begun.completed (h : Begun rs id) (hcourse : Course most [] plan.steps rs w)
    (hcut : ¬ CutOff plan rs id) : Completed plan rs id := by
  have hunfailed : ∀ r ∈ rs, r.step.owner? = some id → r.failed = false := by
    intro r hr howner
    by_contra hfailed
    rcases StepResult.stops_or_warns_of_failed (Bool.not_eq_false _ ▸ hfailed) with hstops | hwarns
    · exact hcut ⟨h, .inl ⟨r, hr, howner, hstops⟩⟩
    · rw [h.unfailed r hr howner] at hwarns
      cases hwarns
  constructor
  · obtain ⟨r, hr, howner⟩ := h.reached
    exact ⟨r.step, hcourse.isPrefix_steps.subset (List.mem_map_of_mem hr), howner⟩
  · intro i s hs howner
    cases hr : rs[i]? with
    | none =>
      -- The step was not reached.
      have hlength := List.getElem?_eq_none_iff.mp hr
      refine absurd ⟨h, .inr ⟨s, ?_, howner⟩⟩ hcut
      rw [← Nat.add_sub_cancel' hlength, ← List.getElem?_drop] at hs
      exact List.mem_of_getElem? hs
    | some r =>
      have hstep := getElem?_steps hcourse.isPrefix_steps hr
      rw [hs] at hstep
      cases hstep
      refine ⟨r, rfl, ?_⟩
      have hmem := List.mem_of_getElem? hr
      by_contra hsuccess
      have hskipped : r.skipped = true := by
        have hfailed := hunfailed r hmem howner
        simpa [StepResult.failed, Bool.not_eq_true _ ▸ hsuccess] using hfailed
      obtain ⟨before, after, hsplit⟩ := List.append_of_mem hmem
      obtain ⟨id', howner', hid | ⟨r', hr', hfailed, hr'owner⟩⟩ :=
        (hcourse.skipped_iff hsplit).mp hskipped
      · cases hid
      · rw [howner] at howner'
        cases howner'
        have hr'mem : r' ∈ rs := hsplit ▸ List.mem_append_left _ hr'
        rw [hunfailed r' hr'mem hr'owner] at hfailed
        cases hfailed

theorem begun_iff (hcourse : Course most [] plan.steps rs w) :
    Begun rs id ↔ Completed plan rs id ∨ CutOff plan rs id := by
  constructor
  · intro h
    by_cases hcut : CutOff plan rs id
    · exact .inr hcut
    · exact .inl (h.completed hcourse hcut)
  · rintro (h | h)
    · exact h.begun hcourse.isPrefix_steps
    · exact h.toBegun

/-- A run that nothing ended cut no action off. -/
theorem not_cutOff_of_ended (h : Ended plan.steps rs) (hstops : ∀ r ∈ rs, r.stops = false) :
    ¬ CutOff plan rs id := by
  intro hcut
  rcases hcut.ended with ⟨r, hr, -, hr'⟩ | ⟨s, hs, -⟩
  · rw [hstops r hr] at hr'
    cases hr'
  · rcases h with ⟨-, hall⟩ | ⟨before, last, rfl, hlast, -⟩
    · rw [← hall, List.drop_eq_nil_of_le (by simp)] at hs
      cases hs
    · rw [hstops last (by simp)] at hlast
      cases hlast

theorem begun_iff_reached :
    Begun rs id ↔ (∃ r ∈ rs, r.step.owner? = some id) ∧
      ¬ ∃ r ∈ rs, r.warns = true ∧ r.step.owner? = some id := by
  constructor
  · rintro ⟨hreached, hunfailed⟩
    refine ⟨hreached, ?_⟩
    rintro ⟨r, hr, hwarns, howner⟩
    rw [hunfailed r hr howner] at hwarns
    cases hwarns
  · rintro ⟨hreached, hnone⟩
    refine ⟨hreached, fun r hr howner => ?_⟩
    exact Bool.eq_false_iff.mpr fun hwarns => hnone ⟨r, hr, hwarns, howner⟩

open scoped Classical in
theorem created_eq (hsteps : rs.map StepResult.step <+: plan.steps) (warnings : List String) :
    plan.created (rs.foldl Progress.enter (Progress.start warnings)) =
      plan.actionOrder.filter fun id => Begun rs id := by
  rw [created, Progress.results_enter, Progress.failed_enter]
  refine List.filter_congr fun id _ => Bool.eq_iff_iff.mpr ?_
  have hplanned : (∃ r ∈ rs, r.step.owner? = some id) → ∃ s ∈ plan.steps, s.owner? = some id := by
    rintro ⟨r, hr, howner⟩
    exact ⟨r.step, hsteps.subset (List.mem_map_of_mem hr), howner⟩
  simp only [Progress.start, List.nil_append, Bool.and_eq_true, Bool.not_eq_true',
    List.contains_iff_mem, List.mem_filterMap, ← Bool.not_eq_true, List.mem_filter,
    decide_eq_true_eq, begun_iff_reached, and_assoc]
  exact ⟨fun h => h.2, fun h => ⟨hplanned h.1, h⟩⟩

open scoped Classical in
theorem length_created_eq (hcourse : Course most [] plan.steps rs w) (warnings : List String) :
    (plan.created (rs.foldl Progress.enter (Progress.start warnings))).length =
      plan.actionOrder.countP (Completed plan rs ·) +
        plan.actionOrder.countP (CutOff plan rs ·) := by
  have hsteps := hcourse.isPrefix_steps
  rw [created_eq hsteps, ← List.countP_eq_length_filter,
    List.countP_eq_countP_filter_add _ _ (Completed plan rs ·), List.countP_filter,
    List.countP_filter]
  congr 1
  · refine List.countP_congr fun id _ => ?_
    simp only [Bool.and_eq_true, decide_eq_true_eq]
    exact ⟨fun h => h.2, fun h => ⟨h.begun hsteps, h⟩⟩
  · refine List.countP_congr fun id _ => ?_
    simp only [Bool.and_eq_true, Bool.not_eq_true', decide_eq_true_eq, decide_eq_false_iff_not]
    constructor
    · rintro ⟨hbegun, hnot⟩
      exact ((begun_iff hcourse).mp hbegun).resolve_left hnot
    · intro hcut
      exact ⟨hcut.toBegun, fun h => h.not_cutOff hsteps hcut⟩

end

/-! ## The count -/

open scoped Classical in
/-- What an execution counts, next to what was performed. -/
structure Counts (plan : Plan) (most : Nat) (t : List (Event World)) (e : Execution) : Prop where
  steps : e.results.map StepResult.step <+: plan.steps
  performed : Attested most e.results (performances t)
  created : e.actionsCreated =
    plan.actionOrder.countP (Completed plan e.results ·) +
      plan.actionOrder.countP (CutOff plan e.results ·)
  disjoint : ∀ id, Completed plan e.results id → ¬ CutOff plan e.results id
  uncut : e.success = true → ∀ id, ¬ CutOff plan e.results id

theorem counts_of_course {plan : Plan} {most : Nat} {t : List (Event World)}
    {rs : List StepResult} (hcourse : Course most [] plan.steps rs (performances t)) :
    Counts plan most t
      (report plan (rs.foldl Progress.enter (Progress.start plan.warnings))) := by
  have hresults : (report plan (rs.foldl Progress.enter (Progress.start plan.warnings))).results =
      rs := Progress.results_enter rs _
  exact {
    steps := by
      rw [hresults]
      exact hcourse.isPrefix_steps
    performed := by
      rw [hresults]
      exact hcourse.attested
    created := by
      rw [hresults]
      exact length_created_eq hcourse plan.warnings
    disjoint := by
      rw [hresults]
      exact fun id h => h.not_cutOff hcourse.isPrefix_steps
    uncut := by
      intro hsuccess id
      rw [hresults]
      refine not_cutOff_of_ended hcourse.ended ?_
      have herror : (rs.find? StepResult.stops).map StepResult.problem = none := by
        rw [← hcourse.ended.error_enter (p := Progress.start plan.warnings) rfl]
        exact Option.isNone_iff_eq_none.mp hsuccess
      intro r hr
      simpa using List.find?_eq_none.mp (Option.map_eq_none_iff.mp herror) r hr }

variable {σ : Type}

/-- Of any plan, whatever the visual builder does, the completed actions count as created, and with
them those that were cut off, of which there are none unless a critical step failed. -/
theorem execute_counts (plan : Plan) (o : RetryOptions Number) (s : σ) :
    ((plan.execute o).start s).Ends ∧
      ∀ t r s', Program.Reaches ((plan.execute o).start s) t (.done (r, s')) →
        ∃ e, r = .ok e ∧ Counts plan o.attempts t e := by
  refine ⟨ends_execute plan o s, fun t r s' hr => ?_⟩
  obtain ⟨rs, rfl, hcourse, -⟩ := traces_execute_course plan o s t r s' hr
  exact ⟨_, rfl, counts_of_course hcourse⟩

/-- The second action counts as created although one of its steps failed. -/
theorem interrupted_counts :
    ∃ t e, Program.Reaches ((interrupted.execute twice).start ()) t (.done (.ok e, ())) ∧
      e.actionsCreated = 1 ∧ ¬ Completed interrupted e.results "a" ∧
      ¬ Completed interrupted e.results "b" ∧ Counts interrupted 2 t e := by
  have hlast : ((Program.record (failingAt [0, 3]) 60
      ((interrupted.execute twice).start ())).2.result?.bind fun x => x.1.toOption.map fun e =>
        (e.actionsCreated, e.results.map StepResult.success)) =
      some (1, [false, true, false, false]) := by
    decide +kernel
  obtain ⟨⟨r, s'⟩, hresult, hr⟩ := Option.bind_eq_some_iff.mp hlast
  have hrun := Program.reaches_of_record hresult
  obtain ⟨e, rfl, hcounts⟩ := (execute_counts interrupted twice ()).2 _ _ _ hrun
  obtain ⟨hcreated, hsuccess⟩ : e.actionsCreated = 1 ∧
      e.results.map StepResult.success = [false, true, false, false] := by
    simpa [Except.toOption] using hr
  have hfailing : ∀ (i : Nat) r, e.results[i]? = some r → r.success = true → i ≠ 0 ∧ i ≠ 3 := by
    intro i r hi hr
    have hplace := congrArg (·[i]?) hsuccess
    simp only [List.getElem?_map, hi, Option.map_some, hr] at hplace
    constructor
    · rintro rfl
      cases hplace
    · rintro rfl
      cases hplace
  refine ⟨_, e, hrun, hcreated, fun h => ?_, fun h => ?_, hcounts⟩
  · obtain ⟨r, hr, hsuccess⟩ := h.2 0 _ rfl rfl
    exact (hfailing 0 r hr hsuccess).1 rfl
  · obtain ⟨r, hr, hsuccess⟩ := h.2 3 _ rfl rfl
    exact (hfailing 3 r hr hsuccess).2 rfl

end Plan

end MarketingFlow
