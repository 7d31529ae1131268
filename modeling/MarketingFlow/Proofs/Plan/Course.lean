import MarketingFlow.Proofs.Plan.Handling

/-!
# The results of a run

The results of a run, in order, determine its progress: each one is entered with its warning, its
picture, the action that fails by it and the error that it ends the run with. `Course most failed
steps rs w` says which results `rs` the steps may have and which performances `w` go with them, once
the actions in `failed` have failed. What a report says of a run is read off its course.
-/

namespace MarketingFlow

namespace StepResult

/-- The step was attempted in vain. -/
def failed (r : StepResult) : Bool :=
  !r.success && !r.skipped

/-- The run ends with the step. -/
def stops (r : StepResult) : Bool :=
  r.failed && r.step.critical

/-- The step failed and the run went on. -/
def warns (r : StepResult) : Bool :=
  r.failed && !r.step.critical

def problem (r : StepResult) : String :=
  r.step.label ++ " failed: " ++ r.error.getD ""

/-- What a result tells fits together: a skipped step did not succeed, and an error is told of the
failed steps only. -/
structure Coherent (r : StepResult) : Prop where
  skipped : r.skipped = true → r.success = false
  error : r.error.isSome = r.failed
  screenshot : r.failed = false → r.screenshot = .null

end StepResult

namespace Plan

/-! ## What a result adds -/

def Progress.enter (p : Progress) (r : StepResult) : Progress :=
  { results := p.results ++ [r]
    warnings := p.warnings ++ if r.warns then [r.problem] else []
    screenshots := p.screenshots ++ if r.screenshot.given then [r.screenshot] else []
    failed := p.failed ++ if r.warns then r.step.owner?.toList else []
    error := if r.stops then some r.problem else p.error }

namespace Progress

theorem enter_skipped (p : Progress) (s : Step) :
    p.enter ⟨s, false, true, none, .null⟩ = p.skip s := by
  simp [enter, skip, add, StepResult.warns, StepResult.stops, StepResult.failed, Json.given]

theorem enter_succeeded (p : Progress) (s : Step) :
    p.enter ⟨s, true, false, none, .null⟩ = p.succeed s := by
  simp [enter, succeed, add, StepResult.warns, StepResult.stops, StepResult.failed, Json.given]

theorem enter_fatal (p : Progress) {s : Step} (hs : s.critical = true) (f : Failure)
    (shot : Json) :
    p.enter ⟨s, false, false, some f.message, shot⟩ = (p.fail s f shot).abort s f := by
  cases hshot : shot.given <;>
    simp [enter, fail, abort, add, StepResult.warns, StepResult.stops, StepResult.failed,
      StepResult.problem, Progress.problem, hs, hshot]

theorem enter_failed (p : Progress) {s : Step} (hs : s.critical = false) (f : Failure)
    (shot : Json) :
    p.enter ⟨s, false, false, some f.message, shot⟩ = (p.fail s f shot).goOn s f := by
  cases hshot : shot.given <;>
    simp [enter, fail, goOn, add, StepResult.warns, StepResult.stops, StepResult.failed,
      StepResult.problem, Progress.problem, hs, hshot]

variable (rs : List StepResult) (p : Progress)

theorem results_enter : (rs.foldl enter p).results = p.results ++ rs := by
  induction rs generalizing p with
  | nil => simp
  | cons r rest ih =>
    rw [List.foldl_cons, ih, enter, List.append_assoc]
    rfl

theorem warnings_enter :
    (rs.foldl enter p).warnings =
      p.warnings ++ (rs.filter StepResult.warns).map StepResult.problem := by
  induction rs generalizing p with
  | nil => simp
  | cons r rest ih =>
    rw [List.foldl_cons, ih]
    cases h : r.warns <;> simp [enter, h]

theorem screenshots_enter :
    (rs.foldl enter p).screenshots =
      p.screenshots ++ (rs.map StepResult.screenshot).filter Json.given := by
  induction rs generalizing p with
  | nil => simp
  | cons r rest ih =>
    rw [List.foldl_cons, ih]
    cases h : r.screenshot.given <;> simp [enter, h]

theorem failed_enter :
    (rs.foldl enter p).failed =
      p.failed ++ (rs.filter StepResult.warns).filterMap fun r => r.step.owner? := by
  induction rs generalizing p with
  | nil => simp
  | cons r rest ih =>
    rw [List.foldl_cons, ih]
    cases h : r.warns with
    | false => simp [enter, h]
    | true => cases ho : r.step.owner? <;> simp [enter, h, ho]

/-- Without a step that ends the run, the error is what it was. -/
theorem error_enter (h : ∀ r ∈ rs, r.stops = false) : (rs.foldl enter p).error = p.error := by
  induction rs generalizing p with
  | nil => rfl
  | cons r rest ih =>
    obtain ⟨hr, hrest⟩ := List.forall_mem_cons.mp h
    rw [List.foldl_cons, ih _ hrest, enter, hr]
    rfl

end Progress

/-! ## Courses -/

inductive Course (most : Nat) :
    List String → List Step → List StepResult → List (Step × Bool) → Prop
  | nil (failed : List String) : Course most failed [] [] []
  | skip {failed : List String} {s : Step} {rest : List Step} {rs : List StepResult}
      {w : List (Step × Bool)} {id : String} (howner : s.owner? = some id) (hid : id ∈ failed)
      (h : Course most failed rest rs w) :
      Course most failed (s :: rest) (⟨s, false, true, none, .null⟩ :: rs) w
  | succeed {failed : List String} {s : Step} {rest : List Step} {rs : List StepResult}
      {w : List (Step × Bool)} (hfresh : ∀ id, s.owner? = some id → id ∉ failed) {failures : Nat}
      (hmost : failures < most) (h : Course most failed rest rs w) :
      Course most failed (s :: rest) (⟨s, true, false, none, .null⟩ :: rs)
        (tries s failures true ++ w)
  | stop {failed : List String} {s : Step} {rest : List Step}
      (hfresh : ∀ id, s.owner? = some id → id ∉ failed) (hcritical : s.critical = true)
      {failures : Nat} (hmost : failures < most) (message : String) (shot : Json) :
      Course most failed (s :: rest) [⟨s, false, false, some message, shot⟩]
        (tries s failures false)
  | goOn {failed : List String} {s : Step} {rest : List Step} {rs : List StepResult}
      {w : List (Step × Bool)} (hfresh : ∀ id, s.owner? = some id → id ∉ failed)
      (hcritical : s.critical = false) {failures : Nat} (hmost : failures < most)
      (message : String) (shot : Json)
      (h : Course most (failed ++ s.owner?.toList) rest rs w) :
      Course most failed (s :: rest) (⟨s, false, false, some message, shot⟩ :: rs)
        (tries s failures false ++ w)

theorem skips_eq_true_iff {p : Progress} {s : Step} :
    p.skips s = true ↔ ∃ id, s.owner? = some id ∧ id ∈ p.failed := by
  cases h : s.owner? with
  | none => simp [skips_of_unowned h]
  | some id => simp [skips_eq h]

theorem not_mem_failed_of_skips {p : Progress} {s : Step} (h : p.skips s = false) :
    ∀ id, s.owner? = some id → id ∉ p.failed := by
  intro id howner hid
  rw [skips_eq_true_iff.mpr ⟨id, howner, hid⟩] at h
  cases h

theorem Carried.course {most : Nat} {steps : List Step} {p q : Progress} {w : List (Step × Bool)}
    (h : Carried most steps p w q) :
    ∃ rs, q = rs.foldl Progress.enter p ∧ Course most p.failed steps rs w := by
  induction h with
  | nil p => exact ⟨[], rfl, .nil _⟩
  | @skip s rest p q w hskips _ ih =>
    obtain ⟨rs, rfl, hrs⟩ := ih
    obtain ⟨id, howner, hid⟩ := skips_eq_true_iff.mp hskips
    refine ⟨_ :: rs, ?_, .skip howner hid hrs⟩
    rw [List.foldl_cons, Progress.enter_skipped]
  | @succeed s rest p q w hskips _ hmost _ ih =>
    obtain ⟨rs, rfl, hrs⟩ := ih
    refine ⟨_ :: rs, ?_, .succeed (not_mem_failed_of_skips hskips) hmost hrs⟩
    rw [List.foldl_cons, Progress.enter_succeeded]
  | @abort s rest p hskips hcritical _ hmost f shot =>
    refine ⟨[_], ?_, .stop (not_mem_failed_of_skips hskips) hcritical hmost f.message shot⟩
    rw [List.foldl_cons, Progress.enter_fatal p hcritical]
    rfl
  | @goOn s rest p q w hskips hcritical _ hmost f shot _ ih =>
    obtain ⟨rs, rfl, hrs⟩ := ih
    refine ⟨_ :: rs, ?_,
      .goOn (not_mem_failed_of_skips hskips) hcritical hmost f.message shot hrs⟩
    rw [List.foldl_cons, Progress.enter_failed p hcritical]

/-- The results that are not of skipped steps, each with its failed attempts before the last one,
are what was performed. -/
def Attested (most : Nat) (rs : List StepResult) (w : List (Step × Bool)) : Prop :=
  ∃ counted : List (StepResult × Nat),
    counted.map Prod.fst = rs.filter (fun r => !r.skipped) ∧ (∀ x ∈ counted, x.2 < most) ∧
      w = counted.flatMap fun x => tries x.1.step x.2 x.1.success

section

variable {most : Nat} {rs : List StepResult} {w : List (Step × Bool)}

theorem Attested.nil : Attested most [] [] :=
  ⟨[], rfl, by simp, rfl⟩

theorem Attested.skip {r : StepResult} (hr : r.skipped = true) (h : Attested most rs w) :
    Attested most (r :: rs) w := by
  obtain ⟨counted, hresults, hmost, rfl⟩ := h
  exact ⟨counted, by simp [hresults, hr], hmost, rfl⟩

theorem Attested.attempt {r : StepResult} (hr : r.skipped = false) {failures : Nat}
    (hfailures : failures < most) (h : Attested most rs w) :
    Attested most (r :: rs) (tries r.step failures r.success ++ w) := by
  obtain ⟨counted, hresults, hmost, rfl⟩ := h
  refine ⟨(r, failures) :: counted, by simp [hresults, hr], ?_, by simp⟩
  exact List.forall_mem_cons.mpr ⟨hfailures, hmost⟩

end

/-- The results are of all steps, none of which ended the run, or the last one is of the first step
that did. -/
def Ended (steps : List Step) (rs : List StepResult) : Prop :=
  (∀ r ∈ rs, r.stops = false) ∧ rs.map StepResult.step = steps ∨
    ∃ before last, rs = before ++ [last] ∧ last.stops = true ∧ ∀ r ∈ before, r.stops = false

theorem Ended.cons {steps : List Step} {rs : List StepResult} {r : StepResult}
    (hr : r.stops = false) (h : Ended steps rs) : Ended (r.step :: steps) (r :: rs) := by
  rcases h with ⟨hrest, rfl⟩ | ⟨before, last, rfl, hlast, hbefore⟩
  · exact .inl ⟨List.forall_mem_cons.mpr ⟨hr, hrest⟩, rfl⟩
  · exact .inr ⟨r :: before, last, rfl, hlast, List.forall_mem_cons.mpr ⟨hr, hbefore⟩⟩

namespace Course

variable {most : Nat} {failed : List String} {steps : List Step} {rs : List StepResult}
  {w : List (Step × Bool)}

theorem isPrefix_steps (h : Course most failed steps rs w) :
    rs.map StepResult.step <+: steps := by
  induction h with
  | nil => exact List.prefix_refl _
  | skip _ _ _ ih | succeed _ _ _ ih | goOn _ _ _ _ _ _ ih => simpa using ih
  | stop => simp

theorem ended (h : Course most failed steps rs w) : Ended steps rs := by
  induction h with
  | nil => exact .inl ⟨by simp, rfl⟩
  | skip _ _ _ ih | succeed _ _ _ ih => exact ih.cons rfl
  | goOn _ hcritical _ _ _ _ ih => exact ih.cons (by simp [StepResult.stops, hcritical])
  | stop _ hcritical =>
    exact .inr ⟨[], _, rfl, by simp [StepResult.stops, StepResult.failed, hcritical], by simp⟩

theorem attested (h : Course most failed steps rs w) : Attested most rs w := by
  induction h with
  | nil => exact .nil
  | skip _ _ _ ih => exact ih.skip rfl
  | succeed _ hmost _ ih | goOn _ _ hmost _ _ _ ih => exact ih.attempt rfl hmost
  | stop _ _ hmost =>
    rw [← List.append_nil (tries _ _ false)]
    exact Attested.nil.attempt rfl hmost

theorem coherent (h : Course most failed steps rs w) : ∀ r ∈ rs, r.Coherent := by
  induction h with
  | nil => simp
  | skip _ _ _ ih | succeed _ _ _ ih =>
    exact List.forall_mem_cons.mpr ⟨⟨by simp, rfl, fun _ => rfl⟩, ih⟩
  | stop => exact List.forall_mem_singleton.mpr ⟨by simp, rfl, by simp [StepResult.failed]⟩
  | goOn _ _ _ _ _ _ ih =>
    exact List.forall_mem_cons.mpr ⟨⟨by simp, rfl, by simp [StepResult.failed]⟩, ih⟩

/-- A step is skipped if and only if its action had failed before, or an earlier result is of a
failed step of the same action. -/
theorem skipped_iff (h : Course most failed steps rs w) {before after : List StepResult}
    {r : StepResult} (hsplit : rs = before ++ r :: after) :
    r.skipped = true ↔ ∃ id, r.step.owner? = some id ∧
      (id ∈ failed ∨ ∃ r' ∈ before, r'.failed = true ∧ r'.step.owner? = some id) := by
  -- Either the first result is the one in question, or it is before it. Of those before it only an
  -- ordinary failure adds to the failed actions, in the last case.
  induction h generalizing before with
  | nil => simp at hsplit
  | @skip failed s rest rs w id howner hid _ ih =>
    cases before with
    | nil =>
      cases hsplit
      simp [howner, hid]
    | cons first before =>
      obtain ⟨rfl, hrest⟩ := List.cons.inj hsplit
      rw [ih hrest]
      simp [StepResult.failed]
  | @succeed failed s rest rs w hfresh _ _ _ ih =>
    cases before with
    | nil =>
      cases hsplit
      simpa using hfresh
    | cons first before =>
      obtain ⟨rfl, hrest⟩ := List.cons.inj hsplit
      rw [ih hrest]
      simp [StepResult.failed]
  | @stop failed s rest hfresh =>
    cases before with
    | nil =>
      cases hsplit
      simpa using hfresh
    | cons first before => simp at hsplit
  | @goOn failed s rest rs w hfresh _ _ _ _ _ _ ih =>
    cases before with
    | nil =>
      cases hsplit
      simpa using hfresh
    | cons first before =>
      obtain ⟨rfl, hrest⟩ := List.cons.inj hsplit
      rw [ih hrest]
      simp [StepResult.failed, or_assoc]

end Course

end Plan

end MarketingFlow
