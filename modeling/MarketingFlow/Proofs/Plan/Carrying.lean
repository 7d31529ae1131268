import MarketingFlow.Plan.Execution
import MarketingFlow.Proofs.Interaction.Traces

/-!
# How a plan is carried out

The performances of a trace are its attempts at steps, each with its success. `Carried most steps p
w q` says which performances `w` lead from the progress `p` over the steps to the progress `q`, with
at most that many attempts at a step. It has one rule for each way that a step may go, and every run
of the steps follows it.
-/

namespace MarketingFlow

/-- An attempt at a step, with its success. -/
def Event.performance? : Event World → Option (Step × Bool)
  | ⟨.perform s, (answer : Except Failure Unit)⟩ => some (s, answer.isOk)
  | _ => none

def performances (t : List (Event World)) : List (Step × Bool) :=
  t.filterMap Event.performance?

@[simp] theorem performances_nil : performances [] = [] := rfl

@[simp] theorem performances_append (t u : List (Event World)) :
    performances (t ++ u) = performances t ++ performances u :=
  List.filterMap_append

@[simp] theorem performances_log {level : Level} {text : String}
    (answer : (World.Call.log level text).Answer) (t : List (Event World)) :
    performances (⟨.log level text, answer⟩ :: t) = performances t := rfl

@[simp] theorem performances_sleep {seconds : Number} (answer : (World.Call.sleep seconds).Answer)
    (t : List (Event World)) :
    performances (⟨.sleep seconds, answer⟩ :: t) = performances t := rfl

namespace Plan

/-- Failed attempts at a step, and the last one. -/
def tries (s : Step) (failures : Nat) (success : Bool) : List (Step × Bool) :=
  List.replicate failures (s, false) ++ [(s, success)]

variable {σ : Type}

/-- What a step was attempted, with what is known of its result. -/
def Attempted (s : Step) (most : Nat) (u : List (Event World)) (r : Except Failure Unit) : Prop :=
  ∃ failures < most, performances u = tries s failures r.isOk

theorem traces_performStep (s : Step) :
    (performStep s : Task σ Unit).Traces fun u r => performances u = [(s, r.isOk)] := by
  unfold performStep
  exact .ask_bind fun answer => .ofExcept rfl

theorem traces_attempt (s : Step) (label : String) (o : RetryOptions Number) (n left : Nat) :
    ((performStep s : Task σ Unit).attempt label o n left).Traces (Attempted s (left + 1)) := by
  induction left using Nat.strongRecOn generalizing n with
  | ind left ih =>
    rw [Task.attempt_eq]
    refine (traces_performStep s).result_bind ?_
    rintro u (e | a) hu
    · have hlast : ∀ v e', performances v = [] →
          Attempted s (left + 1) (u ++ v) (.error e') := by
        intro v e' hv
        exact ⟨0, Nat.succ_pos left, by rw [performances_append, hu, hv]; rfl⟩
      rw [Task.afterAttempt.eq_def]
      dsimp only
      split
      · exact .ask_bind fun _ => .throw (hlast _ _ rfl)
      · split
        · exact .ask_bind fun _ => .throw (hlast _ _ rfl)
        · split
          · exact .throw (hlast _ _ rfl)
          · refine .ask_bind fun _ => .ask_bind fun _ => ?_
            refine (ih _ (Nat.lt_succ_self _) _).mono ?_
            rintro v r ⟨failures, hfailures, hv⟩
            refine ⟨failures + 1, Nat.succ_lt_succ hfailures, ?_⟩
            rw [performances_append, hu, performances_log, performances_sleep, hv]
            rfl
    · have hlast : ∀ v, performances v = [] → Attempted s (left + 1) (u ++ v) (.ok a) := by
        intro v hv
        exact ⟨0, Nat.succ_pos left, by rw [performances_append, hu, hv]; rfl⟩
      rw [Task.afterAttempt.eq_def]
      dsimp only
      split
      · exact .ask_bind fun _ => .pure (hlast _ rfl)
      · exact .pure (hlast _ rfl)

theorem traces_retry (s : Step) (label : String) (o : RetryOptions Number) :
    ((performStep s : Task σ Unit).retry label o).Traces (Attempted s o.attempts) := by
  have hattempts : o.attempts - 1 + 1 = o.attempts := by
    rw [RetryOptions.attempts]
    omega
  rw [Task.retry_eq, ← hattempts]
  exact traces_attempt s label o 1 _

theorem traces_capture (s : Step) :
    (capture s : Task σ Json).Traces fun u r => performances u = [] ∧ r.isOk = true := by
  have hshot : (takeScreenshot ("step-" ++ toString s.index ++ "-" ++ s.operation.name) :
      Task σ Json).Traces fun u _ => performances u = [] := by
    unfold takeScreenshot
    exact .ask_bind fun answer => .ofExcept rfl
  unfold capture
  refine hshot.result_bind ?_
  rintro u (e | shot) hu
  · refine .ask_bind fun _ => .pure ?_
    rw [performances_append, hu]
    exact ⟨rfl, rfl⟩
  · refine .pure ?_
    rw [performances_append, hu]
    exact ⟨rfl, rfl⟩

inductive Carried (most : Nat) : List Step → Progress → List (Step × Bool) → Progress → Prop
  | nil (p : Progress) : Carried most [] p [] p
  | skip {s : Step} {rest : List Step} {p q : Progress} {w : List (Step × Bool)}
      (hskips : p.skips s = true) (h : Carried most rest (p.skip s) w q) :
      Carried most (s :: rest) p w q
  | succeed {s : Step} {rest : List Step} {p q : Progress} {w : List (Step × Bool)}
      (hskips : p.skips s = false) {failures : Nat} (hmost : failures < most)
      (h : Carried most rest (p.succeed s) w q) :
      Carried most (s :: rest) p (tries s failures true ++ w) q
  | abort {s : Step} {rest : List Step} {p : Progress} (hskips : p.skips s = false)
      (hcritical : s.critical = true) {failures : Nat} (hmost : failures < most) (f : Failure)
      (shot : Json) :
      Carried most (s :: rest) p (tries s failures false) ((p.fail s f shot).abort s f)
  | goOn {s : Step} {rest : List Step} {p q : Progress} {w : List (Step × Bool)}
      (hskips : p.skips s = false) (hcritical : s.critical = false) {failures : Nat}
      (hmost : failures < most) (f : Failure) (shot : Json)
      (h : Carried most rest ((p.fail s f shot).goOn s f) w q) :
      Carried most (s :: rest) p (tries s failures false ++ w) q

theorem traces_runSteps (o : RetryOptions Number) (steps : List Step) (p : Progress) :
    (runSteps o steps p : Task σ Progress).Traces fun u r =>
      ∃ q, r = .ok q ∧ Carried o.attempts steps p (performances u) q := by
  induction steps generalizing p with
  | nil => exact .pure ⟨p, rfl, .nil p⟩
  | cons s rest ih =>
    unfold runSteps
    cases hskips : p.skips s with
    | true =>
      refine (ih (p.skip s)).mono ?_
      rintro u r ⟨q, rfl, hq⟩
      exact ⟨q, rfl, .skip hskips hq⟩
    | false =>
      refine (traces_retry s _ o).result_bind ?_
      rintro u (f | _) ⟨failures, hmost, hu⟩
      · refine (traces_capture s).bind ?_ ?_
        · rintro u' shot ⟨hu', -⟩
          dsimp only
          cases hcritical : s.critical with
          | true =>
            refine .ask_bind fun _ => .pure ⟨_, rfl, ?_⟩
            rw [performances_append, performances_append, hu, hu', performances_log,
              performances_nil, List.append_nil, List.append_nil]
            exact .abort hskips hcritical hmost f shot
          | false =>
            refine .ask_bind fun _ => (ih _).mono ?_
            rintro v r ⟨q, rfl, hq⟩
            refine ⟨q, rfl, ?_⟩
            rw [performances_append, performances_append, hu, hu', performances_log]
            exact .goOn hskips hcritical hmost f shot hq
        · rintro u' e ⟨-, he⟩
          cases he
      · refine (ih _).mono ?_
        rintro v r ⟨q, rfl, hq⟩
        refine ⟨q, rfl, ?_⟩
        rw [performances_append, hu]
        exact .succeed hskips hmost hq

end Plan

end MarketingFlow
