import MarketingFlow.Proofs.Plan.Course
import MarketingFlow.Proofs.Plan.Outcome

/-!
# The account of a run

What an execution reports is the account of what was performed and pictured, whatever the plan and
whatever the visual builder does. The events of a run are the attempts at its steps, of which its
course knows, and the pictures, which go with its failed results.
-/

namespace MarketingFlow

/-- A picture that was asked for, with the answer. -/
def Event.picture? : Event World → Option (String × Except Failure Json)
  | ⟨.screenshot name, (answer : Except Failure Json)⟩ => some (name, answer)
  | _ => none

def pictures (t : List (Event World)) : List (String × Except Failure Json) :=
  t.filterMap Event.picture?

@[simp] theorem pictures_append (t u : List (Event World)) :
    pictures (t ++ u) = pictures t ++ pictures u :=
  List.filterMap_append

@[simp] theorem pictures_log {level : Level} {text : String}
    (answer : (World.Call.log level text).Answer) (t : List (Event World)) :
    pictures (⟨.log level text, answer⟩ :: t) = pictures t := rfl

def World.Call.Unpictured : World.Call → Prop
  | .screenshot _ => False
  | _ => True

instance : World.Call.Talks World.Call.Unpictured where
  log _ _ := trivial
  sleep _ := trivial

theorem pictures_eq_nil {t : List (Event World)} (h : ∀ e ∈ t, e.call.Unpictured) :
    pictures t = [] := by
  apply List.filterMap_eq_nil_iff.mpr
  rintro ⟨c, answer⟩ he
  have hc := h _ he
  cases c with
  | screenshot name => exact hc.elim
  | _ => rfl

/-- The name of the picture that is taken after the step has failed. -/
def Step.pictureName (s : Step) : String :=
  "step-" ++ toString s.index ++ "-" ++ s.operation.name

namespace Plan

/-- What is kept of the answer to a picture. -/
def shown : Except Failure Json → Json
  | .ok shot => shot
  | .error _ => .null

/-- The pictures are those of the failed steps. -/
def Pictured (rs : List StepResult) (taken : List (String × Except Failure Json)) : Prop :=
  taken.map (fun x => (x.1, shown x.2)) =
    (rs.filter StepResult.failed).map fun r => (r.step.pictureName, r.screenshot)

variable {σ : Type}

theorem unpictured_attempts (s : Step) (o : RetryOptions Number) :
    ((performStep s : Task σ Unit).retry s.label o).Traces fun u _ => pictures u = [] := by
  have hstep : (performStep s : Task σ Unit).Calls World.Call.Unpictured := by
    unfold performStep
    exact .bind (.ask trivial) fun _ => .ofExcept _
  exact hstep.retry.traces.mono fun u _ hu => pictures_eq_nil hu

theorem traces_capture_picture (s : Step) :
    (capture s : Task σ Json).Traces fun u r =>
      ∃ answer, pictures u = [(s.pictureName, answer)] ∧ r = .ok (shown answer) := by
  have hshot : (takeScreenshot s.pictureName : Task σ Json).Traces fun u r =>
      pictures u = [(s.pictureName, r)] := by
    unfold takeScreenshot
    exact .ask_bind fun answer => .ofExcept rfl
  unfold capture
  refine Task.Traces.result_bind (P := fun u r => pictures u = [(s.pictureName, r)]) hshot ?_
  rintro u (e | shot) hu
  · refine .ask_bind fun _ => .pure ⟨.error e, ?_, rfl⟩
    rw [pictures_append, hu]
    rfl
  · refine .pure ⟨.ok shot, ?_, rfl⟩
    rw [pictures_append, hu]
    rfl

theorem traces_runSteps_pictures (o : RetryOptions Number) (steps : List Step) (p : Progress) :
    (runSteps o steps p : Task σ Progress).Traces fun u r =>
      ∃ q rs, r = .ok q ∧ q.results = p.results ++ rs ∧ Pictured rs (pictures u) := by
  induction steps generalizing p with
  | nil => exact .pure ⟨p, [], rfl, by simp, rfl⟩
  | cons s rest ih =>
    unfold runSteps
    cases p.skips s with
    | true =>
      refine (ih (p.skip s)).mono ?_
      rintro u r ⟨q, rs, rfl, hq, hu⟩
      exact ⟨q, ⟨s, false, true, none, .null⟩ :: rs, rfl, by simp [hq, Progress.skip, Progress.add],
        hu⟩
    | false =>
      refine (unpictured_attempts s o).result_bind ?_
      rintro u (f | _) hu
      · refine (traces_capture_picture s).bind ?_ ?_
        · rintro u' _ ⟨answer, hu', hshot⟩
          cases hshot
          dsimp only
          cases s.critical with
          | true =>
            refine .ask_bind fun _ => .pure
              ⟨_, [⟨s, false, false, some f.message, shown answer⟩], rfl, rfl, ?_⟩
            rw [pictures_append, pictures_append, hu, hu', pictures_log]
            rfl
          | false =>
            refine .ask_bind fun _ => (ih _).mono ?_
            rintro v r ⟨q, rs, rfl, hq, hv⟩
            refine ⟨q, ⟨s, false, false, some f.message, shown answer⟩ :: rs, rfl, ?_, ?_⟩
            · simp [hq, Progress.goOn, Progress.fail, Progress.add]
            · rw [pictures_append, pictures_append, hu, hu', pictures_log]
              exact congrArg (List.cons _) hv
        · rintro u' e ⟨answer, -, he⟩
          cases he
      · refine (ih _).mono ?_
        rintro v r ⟨q, rs, rfl, hq, hv⟩
        refine ⟨q, ⟨s, true, false, none, .null⟩ :: rs, rfl, ?_, ?_⟩
        · simp [hq, Progress.succeed, Progress.add]
        · rw [pictures_append, hu]
          exact hv

/-- Every run of a plan has a course, and its pictures are those of the failed steps. -/
theorem traces_execute_course (plan : Plan) (o : RetryOptions Number) :
    (plan.execute o : Task σ Execution).Traces fun u r => ∃ rs,
      r = .ok (report plan (rs.foldl Progress.enter (Progress.start plan.warnings))) ∧
        Course o.attempts [] plan.steps rs (performances u) ∧ Pictured rs (pictures u) := by
  unfold execute
  refine ((traces_runSteps o plan.steps _).and (traces_runSteps_pictures o plan.steps _)).bind
    ?_ ?_
  · rintro u p ⟨⟨q, hq, hcarried⟩, q', rs', hq', hresults, hpictures⟩
    cases hq
    cases hq'
    obtain ⟨rs, rfl, hcourse⟩ := hcarried.course
    rw [Progress.results_enter] at hresults
    obtain rfl := List.append_cancel_left hresults
    refine .pure ⟨rs, rfl, ?_, ?_⟩
    · rwa [List.append_nil]
    · rwa [List.append_nil]
  · rintro u e ⟨⟨q, hq, -⟩, -⟩
    cases hq

/-! ## What is accounted for -/

/-- The execution `e` of a plan accounts for the events `t`. -/
structure Accounts (plan : Plan) (most : Nat) (t : List (Event World)) (e : Execution) : Prop where
  flowName : e.flowName = plan.flowName
  steps : e.results.map StepResult.step <+: plan.steps
  ended : Ended plan.steps e.results
  coherent : ∀ r ∈ e.results, r.Coherent
  skipped : ∀ before r after, e.results = before ++ r :: after →
    (r.skipped = true ↔ ∃ id, r.step.owner? = some id ∧
      ∃ r' ∈ before, r'.failed = true ∧ r'.step.owner? = some id)
  performed : Attested most e.results (performances t)
  warnings : e.warnings =
    plan.warnings ++ (e.results.filter StepResult.warns).map StepResult.problem
  error : e.error = (e.results.find? StepResult.stops).map StepResult.problem
  success : e.success = !e.error.isSome
  pictured : Pictured e.results (pictures t)
  screenshots : e.screenshots =
    ((pictures t).filterMap fun x => x.2.toOption).filter Json.given

theorem Ended.error_enter {steps : List Step} {rs : List StepResult} (h : Ended steps rs)
    {p : Progress} (hp : p.error = none) :
    (rs.foldl Progress.enter p).error = (rs.find? StepResult.stops).map StepResult.problem := by
  rcases h with ⟨hall, -⟩ | ⟨before, last, rfl, hlast, hbefore⟩
  · rw [Progress.error_enter rs p hall, hp, List.find?_eq_none.mpr fun r hr => by simp [hall r hr]]
    rfl
  · rw [List.foldl_append, List.find?_append,
      List.find?_eq_none.mpr fun r hr => by simp [hbefore r hr]]
    simp [Progress.enter, hlast]

/-- The pictures that are kept are those of the failed steps, as far as there are any. -/
theorem screenshots_of_pictured {rs : List StepResult}
    {taken : List (String × Except Failure Json)} (hcoherent : ∀ r ∈ rs, r.Coherent)
    (h : Pictured rs taken) :
    (rs.map StepResult.screenshot).filter Json.given =
      (taken.filterMap fun x => x.2.toOption).filter Json.given := by
  have hresults : (rs.map StepResult.screenshot).filter Json.given =
      ((rs.filter StepResult.failed).map StepResult.screenshot).filter Json.given := by
    clear h
    induction rs with
    | nil => rfl
    | cons r rest ih =>
      obtain ⟨hr, hrest⟩ := List.forall_mem_cons.mp hcoherent
      cases hfailed : r.failed with
      | true => simp [List.filter_cons, hfailed, ih hrest]
      | false => simp [hfailed, ih hrest, hr.screenshot hfailed, Json.given]
  have htaken : (taken.filterMap fun x => x.2.toOption).filter Json.given =
      (taken.map fun x => shown x.2).filter Json.given := by
    clear h
    induction taken with
    | nil => rfl
    | cons x rest ih =>
      obtain ⟨name, e | shot⟩ := x
      · simpa [shown, Except.toOption, Json.given] using ih
      · change (shot :: rest.filterMap _).filter Json.given = (shot :: rest.map _).filter Json.given
        rw [List.filter_cons, List.filter_cons, ih]
  have hshots := congrArg (List.map Prod.snd) h
  rw [List.map_map, List.map_map] at hshots
  rw [hresults, htaken]
  exact congrArg (List.filter Json.given) hshots.symm

theorem accounts_of_course {plan : Plan} {most : Nat} {t : List (Event World)}
    {rs : List StepResult} (hcourse : Course most [] plan.steps rs (performances t))
    (hpictured : Pictured rs (pictures t)) :
    Accounts plan most t
      (report plan (rs.foldl Progress.enter (Progress.start plan.warnings))) := by
  have hresults : (report plan (rs.foldl Progress.enter (Progress.start plan.warnings))).results =
      rs := Progress.results_enter rs _
  exact {
    flowName := rfl
    steps := by
      rw [hresults]
      exact hcourse.isPrefix_steps
    ended := by
      rw [hresults]
      exact hcourse.ended
    coherent := by
      rw [hresults]
      exact hcourse.coherent
    skipped := by
      intro before r after hsplit
      rw [hcourse.skipped_iff (hresults.symm.trans hsplit)]
      simp
    performed := by
      rw [hresults]
      exact hcourse.attested
    warnings := by
      rw [hresults]
      exact Progress.warnings_enter rs _
    error := by
      rw [hresults]
      exact hcourse.ended.error_enter rfl
    success := by simp [Execution.success]
    pictured := by
      rw [hresults]
      exact hpictured
    screenshots := by
      rw [← screenshots_of_pictured hcourse.coherent hpictured]
      exact Progress.screenshots_enter rs _ }

/-- Every plan is carried out to its end, and the result accounts for what happened. -/
theorem execute_accounts (plan : Plan) (o : RetryOptions Number) (s : σ) :
    ((plan.execute o).start s).Ends ∧
      ∀ t r s', Program.Reaches ((plan.execute o).start s) t (.done (r, s')) →
        ∃ e, r = .ok e ∧ Accounts plan o.attempts t e := by
  refine ⟨ends_execute plan o s, fun t r s' hr => ?_⟩
  obtain ⟨rs, rfl, hcourse, hpictured⟩ := traces_execute_course plan o s t r s' hr
  exact ⟨_, rfl, accounts_of_course hcourse hpictured⟩

/-- The first action fails when it is added, the second one is cut off by a step that matters. -/
def interrupted : Plan :=
  { flowName := .str "Interrupted"
    steps :=
      [⟨0, .addAction, some "a", [], false⟩, ⟨1, .addAction, some "b", [], false⟩,
        ⟨2, .configureDelay, some "a", [], false⟩, ⟨3, .selectTrigger, some "b", [], true⟩,
        ⟨4, .configureMessage, some "b", [], false⟩]
    actionOrder := ["a", "b"]
    warnings := ["Set the picture by hand."] }

/-- An outside where the steps with the given indices fail, and only the first of them is
pictured. -/
def failingAt (indices : List Int) : (c : World.Call) → World.Answer c
  | .perform s =>
    (if s.index ∈ indices then .error (Failure.value "no such field") else .ok () :
      Except Failure Unit)
  | .screenshot name =>
    (if some name = indices.head?.map fun i => "step-" ++ toString i ++ "-add-action" then
      .ok (.str "first.png") else .error (Failure.value "no picture") : Except Failure Json)
  | c => World.smooth c

theorem interrupted_accounts :
    ∃ t e, Program.Reaches ((interrupted.execute twice).start ()) t (.done (.ok e, ())) ∧
      e.success = false ∧ e.results.map StepResult.skipped = [false, false, true, false] ∧
      (performances t).length = 5 ∧ e.screenshots.length = 1 ∧ Accounts interrupted 2 t e := by
  have hlast : ((Program.record (failingAt [0, 3]) 60
      ((interrupted.execute twice).start ())).2.result?.bind fun x => x.1.toOption.map fun e =>
        (e.success, e.results.map StepResult.skipped, e.screenshots.length)) =
      some (false, [false, false, true, false], 1) := by
    decide +kernel
  have hlength : (performances (Program.record (failingAt [0, 3]) 60
      ((interrupted.execute twice).start ())).1).length = 5 := by
    decide +kernel
  obtain ⟨⟨r, s'⟩, hresult, hr⟩ := Option.bind_eq_some_iff.mp hlast
  have hrun := Program.reaches_of_record hresult
  obtain ⟨e, rfl, haccounts⟩ := (execute_accounts interrupted twice ()).2 _ _ _ hrun
  obtain ⟨hsuccess, hskipped, hshots⟩ : e.success = false ∧
      e.results.map StepResult.skipped = [false, false, true, false] ∧
      e.screenshots.length = 1 := by
    simpa [Except.toOption] using hr
  exact ⟨_, e, hrun, hsuccess, hskipped, hlength, hshots, haccounts⟩

end Plan

end MarketingFlow
