import MarketingFlow.Proofs.Build.Routes

/-!
# The report of a build in the browser

A build that goes to the visual builder ends there, whatever steps and pictures come to. If the last
picture can be taken, it returns a result that carries the id of the flow and all that its steps
came to; if it cannot, the failure is raised and the flow is left behind without a word.
-/

namespace MarketingFlow

open Outcome World.Call

/-- A session opens, and one that went well closes. -/
def Event.InOrder : Event World → Prop
  | ⟨.openSession, (answer : Except Failure Unit)⟩ => answer = .ok ()
  | ⟨.closeSession true, (answer : Except Failure Unit)⟩ => answer = .ok ()
  | _ => True

namespace Builder

variable (b : Builder) {f : Flow} {v : Verdict} {plan : Plan} {o : RetryOptions Number}
  {t : List (Event World)} {res : Except Failure BuildResult}

theorem run_inSession {α : Type} {work : Work α} {r : Except Failure α}
    (h : (inSession work).Run () t r ()) (hsessions : ∀ e ∈ t, e.InOrder) :
    ∃ opening u closing, t = opening :: (u ++ [closing]) ∧ work.Run () u r () := by
  unfold inSession at h
  obtain ⟨opened, t, rfl, hopened⟩ := Task.run_ask_bind h
  obtain rfl : opened = .ok () := hsessions _ (.head _)
  obtain ⟨u, w, x, _, rfl, hwork, hrest⟩ := Task.run_result_bind hopened
  cases x with
  | error e =>
    obtain ⟨closed, w, rfl, hend⟩ := Task.run_ask_bind hrest
    obtain ⟨rfl, hend⟩ := Program.Reaches.of_done hend
    cases hend
    exact ⟨_, u, _, rfl, hwork⟩
  | ok a =>
    obtain ⟨closed, w, rfl, hclosed⟩ := Task.run_ask_bind hrest
    obtain rfl : closed = .ok () := hsessions ⟨.closeSession true, closed⟩ (by simp)
    obtain ⟨rfl, hend⟩ := Program.Reaches.of_done hclosed
    cases hend
    exact ⟨_, u, _, rfl, hwork⟩

/-- The result carries the id of the flow and what the execution of its plan came to. -/
structure Carries (e : Execution) (id : Json) (r : BuildResult) : Prop where
  flowId : r.flowId = id
  actionsCreated : r.actionsCreated = e.actionsCreated
  warnings : e.warnings <:+: r.warnings
  errors : r.errors = e.error.toList.map ("Browser automation failed: " ++ ·)

/-- In the course of the trace the plan is executed, and then a last picture is taken. If that is
possible, the result tells what the execution came to; if not, that is all that is known of it. -/
def Reported (plan : Plan) (o : RetryOptions Number) (t : List (Event World))
    (res : Except Failure BuildResult) : Prop :=
  ∃ before w e shot after,
    t = before ++ w ++ ⟨.screenshot "flow-complete", shot⟩ :: after ∧
    (plan.execute o : Work Execution).Run () w (.ok e) () ∧
    match (shot : Except Failure Json) with
    | .error x => res = .error x
    | .ok _ => ∃ id r, ⟨.currentFlow, id⟩ ∈ after ∧ res = .ok r ∧ Carries e id r

theorem Reported.extend (h : Reported plan o t res) (u w : List (Event World)) :
    Reported plan o (u ++ (t ++ w)) res := by
  obtain ⟨before, v, e, shot, after, rfl, hexecute, hres⟩ := h
  refine ⟨u ++ before, v, e, shot, after ++ w, by simp, hexecute, ?_⟩
  cases shot with
  | error x => exact hres
  | ok final =>
    obtain ⟨id, r, hid, hr⟩ := hres
    exact ⟨id, r, List.mem_append_left w hid, hr⟩

theorem Reported.map {g : BuildResult → BuildResult} (h : Reported plan o t res)
    (hg : ∀ e id r, Carries e id r → Carries e id (g r)) : Reported plan o t (res.map g) := by
  obtain ⟨before, w, e, shot, after, rfl, hexecute, hres⟩ := h
  refine ⟨before, w, e, shot, after, rfl, hexecute, ?_⟩
  cases shot with
  | error x =>
    obtain rfl : res = .error x := hres
    rfl
  | ok final =>
    obtain ⟨id, r, hid, rfl, hr⟩ := hres
    exact ⟨id, g r, hid, rfl, hg e id r hr⟩

theorem carries_result (s : Session) (f : Flow) : Carries s.execution s.flowId (s.result f) :=
  ⟨rfl, rfl, List.infix_rfl, rfl⟩

theorem reported_of_run_carryOut {r : Except Failure Session} (hretry : b.stepRetry = .ok o)
    (h : (b.carryOut plan).Run () t r ()) (hsessions : ∀ e ∈ t, e.InOrder) (f : Flow) :
    Reported plan o t (r.map (·.result f)) := by
  obtain ⟨opening, u, closing, rfl, hwork⟩ := run_inSession h hsessions
  rw [hretry] at hwork
  replace hwork : (do
      let e ← plan.execute o
      let shot ← Task.ask (.screenshot "flow-complete")
      let final ← Task.ofExcept shot
      let flowId ← Task.ask .currentFlow
      return ⟨e, final, flowId⟩ : Work Session).Run () u r () := hwork
  rcases Task.run_bind hwork with ⟨w, after, e, _, rfl, hexecute, hrest⟩ | ⟨x, -, hexecute⟩
  · obtain ⟨shot, after, rfl, hshot⟩ := Task.run_ask_bind hrest
    refine ⟨[opening], w, e, shot, after ++ [closing], by simp, hexecute, ?_⟩
    cases shot with
    | error x =>
      obtain ⟨-, hend⟩ := Program.Reaches.of_done hshot
      cases hend
      rfl
    | ok final =>
      obtain ⟨id, after, rfl, hend⟩ := Task.run_ask_bind hshot
      obtain ⟨-, hend⟩ := Program.Reaches.of_done hend
      cases hend
      exact ⟨id, _, by simp, rfl, carries_result ⟨e, final, id⟩ f⟩
  · obtain ⟨q, hq, -⟩ := Plan.traces_execute plan o () _ _ _ hexecute
    cases hq

theorem reported_of_run_buildInBrowser (hplan : Plan.ofFlow f = .ok plan)
    (hretry : b.stepRetry = .ok o) (h : (b.buildInBrowser f).Run () t res ())
    (hsessions : ∀ e ∈ t, e.InOrder) : Reported plan o t res := by
  unfold buildInBrowser at h
  rw [hplan] at h
  obtain ⟨⟨⟩, t, rfl, hannounced⟩ := Task.run_ask_bind h
  obtain ⟨⟨⟩, t, rfl, hstarted⟩ := Task.run_ask_bind hannounced
  rcases Task.run_bind hstarted with ⟨u, w, s, _, rfl, hsession, hrest⟩ | ⟨x, rfl, hsession⟩
  · obtain ⟨⟨⟩, w, rfl, hend⟩ := Task.run_ask_bind hrest
    obtain ⟨-, hend⟩ := Program.Reaches.of_done hend
    cases hend
    refine (b.reported_of_run_carryOut hretry hsession (fun e he => ?_) f).extend [_, _] _
    exact hsessions e (by simp [he])
  · have hreported := b.reported_of_run_carryOut hretry hsession (fun e he => ?_) f
    · rw [← List.append_nil t]
      exact hreported.extend [_, _] []
    · exact hsessions e (by simp [he])

theorem ends_buildInBrowser (f : Flow) : (b.buildInBrowser f).Ends := by
  have hcarryOut : ∀ plan, (b.carryOut plan).Ends := by
    refine fun plan => ends_inSession ?_
    refine .bind (.ofExcept _) fun retry => .bind (Plan.ends_execute plan retry) fun _ => ?_
    exact .bind (.bind (.ask _) fun _ => .ofExcept _) fun _ => .bind (.ask _) fun _ => .pure _
  unfold buildInBrowser
  refine .bind (.ofExcept _) fun plan => .bind (.ask _) fun _ => .bind (.log _ _) fun _ => ?_
  exact .bind (hcarryOut plan) fun _ => .bind (.log _ _) fun _ => .pure _

/-- What comes after a failed result of the service ends. -/
theorem endsAfter_buildHybrid (hsplit : f.hasActionType "ab-split" = false)
    {u : List (Event World)} {r : BuildResult} (h : (b.buildByService f).Run () u (.ok r) ())
    (hfailed : r.success = false) : ((b.buildHybrid f).start ()).EndsAfter u := by
  unfold buildHybrid
  rw [hsplit, ← List.append_nil u]
  refine Task.endsAfter_bind h (Program.Ends.endsAfter ?_ [])
  rw [hfailed]
  exact Task.Ends.bind (.log _ _) (fun _ => .bind (b.ends_buildInBrowser f) fun _ => .pure _) ()

/-- By its mode, by the flow or by what the service came to, the build goes to the browser. -/
def ToBrowser (f : Flow) (v : Verdict) (t : List (Event World)) : Prop :=
  b.config.mode = .browser ∨
    b.config.mode = .hybrid ∧ (f.hasActionType "ab-split" = true ∨ b.Refused f v t)

/-- The trace of a route to the browser ends with a run there, whose result is all but kept. -/
theorem browser_of_route {u : List (Event World)}
    (hroute : b.ToBrowser f v (Task.messages .warning v.warnings ++ u)) (h : b.Route f u res) :
    ∃ before w x g, u = before ++ w ∧ (b.buildInBrowser f).Run () w x () ∧ res = x.map g ∧
      ∀ e id r, Carries e id r → Carries e id (g r) := by
  -- What the service came to is settled by the trace.
  have hrefused : ∀ {u' w y}, u = u' ++ w → (b.buildByService f).Run () u' y () →
      b.Refused f v (Task.messages .warning v.warnings ++ u) →
        ∃ r, y = .ok r ∧ r.success = false := by
    rintro u' w y rfl hservice ⟨u₁, w₁, r, htrace, hservice₁, hfailed⟩
    cases hservice.done_unique hservice₁ (List.append_cancel_left htrace)
    exact ⟨r, rfl, hfailed⟩
  cases h with
  | @browser w x _ hbrowser =>
    refine ⟨[], u, res, id, rfl, hbrowser, ?_, fun _ _ _ hr => hr⟩
    cases res <;> rfl
  | @split w x _ _ hbrowser =>
    exact ⟨[splitMessage], w, x, _, rfl, hbrowser, rfl,
      fun _ _ _ hr => ⟨hr.flowId, hr.actionsCreated, hr.warnings, hr.errors⟩⟩
  | @fallback u w r x _ _ hservice _ hbrowser =>
    refine ⟨u ++ [fallbackMessage], w, x, _, by simp, hbrowser, rfl, fun _ _ _ hr => ?_⟩
    refine ⟨hr.flowId, hr.actionsCreated, hr.warnings.trans ?_, hr.errors⟩
    rw [List.append_assoc]
    exact (List.prefix_append _ _).isInfix
  | service hmode _ _ => simp [ToBrowser, hmode] at hroute
  | created hmode hsplit hservice hsuccess _ =>
    simp only [ToBrowser, hmode, hsplit, reduceCtorEq, Bool.false_eq_true, true_and,
      false_or] at hroute
    obtain ⟨_, ⟨rfl⟩, hfailed⟩ := hrefused rfl hservice hroute
    rw [hsuccess] at hfailed
    cases hfailed
  | raised hfirst hservice =>
    rcases hfirst with hmode | ⟨hmode, hsplit⟩
    · simp [ToBrowser, hmode] at hroute
    · simp only [ToBrowser, hmode, hsplit, reduceCtorEq, Bool.false_eq_true, true_and,
        false_or] at hroute
      obtain ⟨_, ⟨⟩, -⟩ := hrefused (List.append_nil _).symm hservice hroute

section

variable (hv : f.validate = .ok v) (hvalid : v.valid = true)

include hv hvalid

theorem ends_of_toBrowser {q : Program World (Except Failure BuildResult × Unit)}
    (hroute : b.ToBrowser f v t) (h : Program.Reaches ((b.build f).start ()) t q) : q.Ends := by
  have hends : ((b.buildInMode f).Ends) → q.Ends := by
    intro hmode
    refine Program.Ends.reaches ?_ h
    rw [b.build_of_valid hv hvalid]
    exact (Task.Ends.logs _ _).bind (fun _ => hmode.bind fun _ => .pure _) ()
  unfold buildInMode at hends
  rcases hroute with hmode | ⟨hmode, hroute⟩
  · rw [hmode] at hends
    exact hends (b.ends_buildInBrowser f)
  · rw [hmode] at hends
    cases hsplit : f.hasActionType "ab-split" with
    | true =>
      unfold buildHybrid at hends
      rw [hsplit] at hends
      exact hends (.bind (.log _ _) fun _ => .bind (b.ends_buildInBrowser f) fun _ => .pure _)
    | false =>
      rw [hsplit] at hroute
      obtain ⟨u, w, r, rfl, hservice, hfailed⟩ := hroute.resolve_left Bool.noConfusion
      have hafter : ((b.build f).start ()).EndsAfter (Task.messages .warning v.warnings ++ u) := by
        rw [b.build_of_valid hv hvalid]
        refine Task.endsAfter_bind (Task.run_logs .warning v.warnings ()) ?_
        refine Task.endsAfter_bind_ends ?_ fun _ => .pure _
        unfold buildInMode
        rw [hmode]
        exact b.endsAfter_buildHybrid hsplit hservice hfailed
      refine hafter w q ?_
      rw [List.append_assoc]
      exact h

theorem reported_of_toBrowser (hplan : Plan.ofFlow f = .ok plan) (hretry : b.stepRetry = .ok o)
    (hroute : b.ToBrowser f v t) (h : (b.build f).Run () t res ())
    (hsessions : ∀ e ∈ t, e.InOrder) : Reported plan o t res := by
  obtain ⟨u, x, rfl, hbuild, rfl⟩ := b.route_of_run_build hv hvalid h
  obtain ⟨before, w, y, g, rfl, hbrowser, rfl, hg⟩ := b.browser_of_route hroute hbuild
  have hreported := b.reported_of_run_buildInBrowser hplan hretry hbrowser fun e he =>
    hsessions e (List.mem_append_right _ (List.mem_append_right _ he))
  have hremarks : ∀ e id r, Carries e id r →
      Carries e id { r with warnings := v.warnings ++ r.warnings } := fun e id r hr =>
    ⟨hr.flowId, hr.actionsCreated, hr.warnings.trans (List.suffix_append _ _).isInfix, hr.errors⟩
  have hextended :=
    ((hreported.map hg).map hremarks).extend (Task.messages .warning v.warnings ++ before) []
  rw [List.append_nil, List.append_assoc] at hextended
  exact hextended

/-- A build that goes to the browser ends there, and unless the last picture cannot be taken it
returns a result that carries the id of the flow and all that its steps came to. -/
theorem browser_reports (hplan : Plan.ofFlow f = .ok plan) {n : Int}
    (hretries : b.config.maxRetries = .int n) :
    (∀ t q, Program.Reaches ((b.build f).start ()) t q → b.ToBrowser f v t → q.Ends) ∧
      ∀ t res, (b.build f).Run () t res () → b.ToBrowser f v t → (∀ e ∈ t, e.InOrder) →
        Reported plan { RetryOptions.standard with maxAttempts := max 1 (min n 2) } t res := by
  refine ⟨fun t q hq hroute => b.ends_of_toBrowser hv hvalid hroute hq, ?_⟩
  intro t res h hroute hsessions
  refine b.reported_of_toBrowser hv hvalid hplan ?_ hroute h hsessions
  rw [stepRetry, Config.attempts, hretries]
  rfl

end

/-- An outside where all goes well but no picture can be taken. -/
def blind : (c : World.Call) → World.Answer c
  | .screenshot _ => (.error (Failure.value "page closed") : Except Failure Json)
  | c => World.smooth c

theorem inOrder_blind (c : World.Call) : Event.InOrder ⟨c, blind c⟩ := by
  cases c with
  | closeSession endedWell => cases endedWell <;> trivial
  | openSession => rfl
  | _ => exact True.intro

def editing : Builder :=
  ⟨{ mode := .browser, storageState := .str "s.json" }, none⟩

/-- The flow is created, but nobody hears of it. -/
theorem greeting_unreported :
    ∃ plan t e, Plan.ofFlow .greeting = .ok plan ∧
      (editing.build .greeting).Run () t (.error e) () ∧
      ((performances t).any fun x => x.1.operation == .createFlow && x.2) = true ∧
      Reported plan { RetryOptions.standard with maxAttempts := max 1 (min 3 2) } t (.error e) := by
  obtain ⟨plan, hplan⟩ : ∃ plan, Plan.ofFlow .greeting = .ok plan := by
    rw [Plan.ofFlow, Flow.traverse_greeting]
    exact ⟨_, rfl⟩
  have hlast : (fun x : List (Event World) × Program World (Except Failure BuildResult × Unit) =>
      (x.2.result?.map fun y => y.1.isOk,
        (performances x.1).any fun x => x.1.operation == .createFlow && x.2))
      (Program.record blind 30 ((editing.build .greeting).start ())) = (some false, true) := by
    simp only [build, validate_greeting, buildInMode, buildInBrowser, editing, Plan.ofFlow,
      Flow.traverse_greeting]
    decide +kernel
  obtain ⟨hlast, hcreated⟩ : _ ∧ _ := by simpa only [Prod.mk.injEq] using hlast
  obtain ⟨⟨res, s⟩, hlast, hres⟩ := Option.map_eq_some_iff.mp hlast
  cases res with
  | ok r => cases hres
  | error e =>
    have hrun := Program.reaches_of_record hlast
    have hinOrder : ∀ x ∈ (Program.record blind 30 ((editing.build .greeting).start ())).1,
        x.InOrder := by
      intro x hx
      rw [Program.answer_of_mem_record hx]
      exact inOrder_blind x.call
    refine ⟨plan, _, e, hplan, hrun, hcreated, ?_⟩
    exact (editing.browser_reports validate_greeting rfl hplan rfl).2 _ _ hrun (.inl rfl) hinOrder

end Builder

end MarketingFlow
