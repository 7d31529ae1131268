import MarketingFlow.Proofs.Plan.Outcome
import MarketingFlow.Proofs.Service.ClosedPayload

/-!
# The payload and the plan of a flow

The same flow can be created at once or step by step. Either way its actions come in the same order
and its messages get the same settings, though a payload has them inside of the action in its place
and a plan in the parameters of one step.
-/

namespace MarketingFlow

/-- The first of the three that is not null; the last one counts in any case. -/
inductive Json.FirstOf (own flowWide fallback : Json) : Json → Prop where
  | own (h : own ≠ .null) : FirstOf own flowWide fallback own
  | flowWide (h : own = .null) (h' : flowWide ≠ .null) : FirstOf own flowWide fallback flowWide
  | fallback (h : own = .null) (h' : flowWide = .null) : FirstOf own flowWide fallback fallback

theorem Json.firstOf_iff {own flowWide fallback v : Json} :
    FirstOf own flowWide fallback v ↔ v = resolveSetting own flowWide fallback := by
  have hnull : resolveSetting .null .null fallback = fallback := rfl
  have hflow : flowWide ≠ .null → resolveSetting .null flowWide fallback = flowWide :=
    fun h => if_neg (mt isNull_iff.mp h)
  have hown : own ≠ .null → resolveSetting own flowWide fallback = own :=
    fun h => if_neg (mt isNull_iff.mp h)
  constructor
  · intro h
    cases h with
    | own h => exact (hown h).symm
    | flowWide h h' =>
      subst h
      exact (hflow h').symm
    | fallback h h' =>
      subst h h'
      exact hnull.symm
  · rintro rfl
    by_cases h : own = .null
    · subst h
      by_cases h' : flowWide = .null
      · subst h'
        exact .fallback rfl rfl
      · rw [hflow h']
        exact .flowWide rfl h'
    · rw [hown h]
      exact .own h

/-- A setting of the whole flow, null if there is none. -/
def Flow.setting (f : Flow) (field : Settings → Json) : Json :=
  match f.settings with
  | some s => field s
  | none => .null

/-- The settings of a message in a flow, each decided for itself. -/
structure MessageSettings.Decided (s : MessageSettings) (f : Flow) (m : Message) : Prop where
  smartSending :
    Json.FirstOf m.smartSending (f.setting Settings.smartSending) (.bool true) s.smartSending
  utmTracking :
    Json.FirstOf m.utmTracking (f.setting Settings.utmTracking) (.bool false) s.utmTracking

theorem decided_ofMessage (f : Flow) (m : Message) :
    (MessageSettings.ofMessage m f.settings).Decided f m := by
  have hfield : ∀ field : Settings → Json, field Settings.unset = .null →
      field (f.settings.getD Settings.unset) = f.setting field := by
    intro field hunset
    rw [Flow.setting]
    cases f.settings with
    | some s => rfl
    | none => exact hunset
  constructor
  · rw [← hfield _ rfl]
    exact Json.firstOf_iff.mpr rfl
  · rw [← hfield _ rfl]
    exact Json.firstOf_iff.mpr rfl

/-! ## The step of a message -/

namespace Plan

/-- The settings that a step fills in. -/
def filledIn (s : Step) : MessageSettings :=
  ⟨Members.value s.params "smart_sending", Members.value s.params "utm_tracking"⟩

def configuresMessage (id : String) (e : Entry) : Bool :=
  e.operation == .configureMessage && e.actionId == some id

/-- The steps that configure the message of an action. -/
def messageSteps (plan : Plan) (id : String) : List Step :=
  plan.steps.filter fun s => s.operation == .configureMessage && s.actionId == some id

variable {settings : Option Settings}

theorem filter_actionEntries_of_ne {a : Action} {id : String} (h : a.id ≠ id) :
    (actionEntries settings a).filter (configuresMessage id) = [] := by
  simp [actionEntries, configuresMessage, h]

theorem filter_actionEntries_self (settings : Option Settings) {a : Action} {m : Message}
    (h : a.work.message? = some m) :
    ∃ params, (actionEntries settings a).filter (configuresMessage a.id) =
        [⟨.configureMessage, some a.id, params, false⟩] ∧
      ⟨Members.value params "smart_sending", Members.value params "utm_tracking"⟩ =
        MessageSettings.ofMessage m settings := by
  have hentries : ∀ params, configuration a settings = (.configureMessage, params) →
      (actionEntries settings a).filter (configuresMessage a.id) =
        [⟨.configureMessage, some a.id, params, false⟩] := by
    intro params h
    simp [actionEntries, h, configuresMessage]
  obtain ⟨id, work⟩ := a
  cases work with
  | email e =>
    cases h
    exact ⟨_, hentries _ rfl, rfl⟩
  | sms t =>
    cases h
    exact ⟨_, hentries _ rfl, rfl⟩
  | _ => cases h

/-- Among the entries of different actions, only its own configure the message of an action. -/
theorem filter_flatMap_actionEntries {ordered : List Action} {a : Action}
    (hids : (ordered.map Action.id).Nodup) (ha : a ∈ ordered) :
    (ordered.flatMap (actionEntries settings)).filter (configuresMessage a.id) =
      (actionEntries settings a).filter (configuresMessage a.id) := by
  have hothers : ∀ others : List Action, a.id ∉ others.map Action.id →
      (others.flatMap (actionEntries settings)).filter (configuresMessage a.id) = [] := by
    intro others hnot
    rw [List.filter_flatMap, List.flatMap_eq_nil_iff]
    intro b hb
    apply filter_actionEntries_of_ne
    rintro hid
    exact hnot (hid ▸ List.mem_map_of_mem hb)
  obtain ⟨before, after, rfl⟩ := List.append_of_mem ha
  rw [List.map_append, List.map_cons] at hids
  obtain ⟨-, hafter, hapart⟩ := List.nodup_append.mp hids
  have hbefore : a.id ∉ before.map Action.id := fun hmem => hapart _ hmem _ List.mem_cons_self rfl
  rw [List.flatMap_append, List.flatMap_cons, List.filter_append, List.filter_append,
    hothers before hbefore, hothers after (List.nodup_cons.mp hafter).1, List.append_nil,
    List.nil_append]

theorem messageSteps_ofFlow {f : Flow} {plan : Plan} (h : ofFlow f = .ok plan)
    {ordered : List Action} (ht : f.traverse = .ok ordered) {a : Action} {m : Message}
    (ha : a ∈ ordered) (hm : a.work.message? = some m) :
    ∃ step, plan.messageSteps a.id = [step] ∧
      filledIn step = MessageSettings.ofMessage m f.settings := by
  obtain ⟨ordered', trigger, ht', hentries, -, -⟩ := steps_ofFlow h
  obtain rfl : ordered = ordered' := Except.ok.inj (ht.symm.trans ht')
  have hids := Flow.nodup_map_id_of_traverse ht
  obtain ⟨params, hown, hfilled⟩ := filter_actionEntries_self f.settings hm
  have hsteps : (plan.messageSteps a.id).map entry =
      [⟨.configureMessage, some a.id, params, false⟩] := by
    have hentry : (plan.messageSteps a.id).map entry =
        (plan.steps.map entry).filter (configuresMessage a.id) := by
      rw [List.filter_map]
      rfl
    rw [hentry, hentries, ← hown, ← filter_flatMap_actionEntries hids ha]
    cases f.reentry <;> simp [configuresMessage]
  obtain ⟨step, hstep, hparams⟩ := List.map_eq_singleton_iff.mp hsteps
  obtain ⟨-, -, rfl, -⟩ := Entry.mk.inj hparams
  exact ⟨step, hstep, hfilled⟩

end Plan

/-! ## The action of a message -/

namespace Payload

variable {sender : Sender} {templates : TemplateIds}

/-- The settings that an action of a payload has in its message. -/
def sentAlong (action : Json) : MessageSettings :=
  let message := (action.member "data").member "message"
  ⟨message.member "smart_sending_enabled", message.member "add_tracking_params"⟩

theorem sentAlong_of_compileAction {settings : Option Settings} {a : Action} {c : Compiled}
    {m : Message} (h : compileAction settings sender templates a = .ok c)
    (hm : a.work.message? = some m) :
    sentAlong c.toJson = MessageSettings.ofMessage m settings := by
  obtain ⟨id, work⟩ := a
  cases work with
  | email e =>
    cases hm
    cases h
    rfl
  | sms t =>
    cases hm
    cases h
    rfl
  | _ => cases hm

variable {σ : Type}

/-- The payload and the plan of a flow have the same actions in the same order, that of traversal.
The settings of a message are the same in the payload, in the place of its action, and in the one
step that configures it: its own, else the flow's, else the fallback. -/
theorem plan_agrees {f : Flow} {service : Option (NameService σ)} {s s' : σ}
    {t : List (Event World)} {creation : Creation} {plan : Plan}
    (h : Program.Reaches ((ofFlow f service sender templates).start s) t
      (.done (.ok creation, s')))
    (hplan : Plan.ofFlow f = .ok plan) :
    ∃ ordered, f.traverse = .ok ordered ∧ creation.actionOrder = ordered.map Action.id ∧
      plan.actionOrder = creation.actionOrder ∧
      ∀ (i : Nat) (a : Action) (m : Message), ordered[i]? = some a → a.work.message? = some m →
        ∃ action step, creation.actions[i]? = some action ∧
          action.member "temporary_id" = .str a.id ∧ plan.messageSteps a.id = [step] ∧
          sentAlong action = Plan.filledIn step ∧ (Plan.filledIn step).Decided f m := by
  obtain ⟨ordered, compiled, ht, hcompiled, hcreation⟩ :=
    (ensures_ofFlow f service sender templates).reaches h creation rfl
  obtain ⟨ordered', -, ht', -, -, horder⟩ := Plan.steps_ofFlow hplan
  obtain rfl : ordered = ordered' := Except.ok.inj (ht.symm.trans ht')
  refine ⟨ordered, ht, hcreation.order, horder.trans hcreation.order.symm, ?_⟩
  intro i a m ha hm
  obtain ⟨c, hc, rfl, hmade⟩ := getElem?_of_mapM hcompiled ha
  obtain ⟨step, hstep, hfilled⟩ :=
    Plan.messageSteps_ofFlow hplan ht (List.mem_of_getElem? ha) hm
  refine ⟨c.toJson, step, ?_, rfl, hstep, ?_, ?_⟩
  · rw [hcreation.actions_eq, List.getElem?_map, hc]
    rfl
  · rw [hfilled]
    exact sentAlong_of_compileAction hmade hm
  · rw [hfilled]
    exact decided_ofMessage f m

/-- A flow that greets by email, then by text message. It switches smart sending off, and the email
switches it on again. -/
def twoMessages : Flow :=
  { name := .str "Two messages"
    trigger := some (.list .null (.str "L1"))
    actions := [⟨"sms", .sms ⟨⟨.str "Later", .null, .bool true, .null⟩, .null⟩⟩,
      ⟨"email", .email ⟨⟨.str "First", .bool true, .null, .str "sms"⟩, .null, .null, .null⟩⟩]
    entry := .str "email"
    profileFilter := none
    settings := some ⟨.bool false, .null, none⟩
    tags := [] }

theorem traverse_twoMessages : twoMessages.traverse = .ok twoMessages.actions.reverse := by
  cbv

theorem plan_agrees_twoMessages :
    ∃ t creation plan action step,
      Program.Reaches ((ofFlow twoMessages none ⟨.null, .null⟩ [] : Task Unit Creation).start ()) t
        (.done (.ok creation, ())) ∧
      Plan.ofFlow twoMessages = .ok plan ∧ plan.actionOrder = ["email", "sms"] ∧
      creation.actions[1]? = some action ∧ plan.messageSteps "sms" = [step] ∧
      sentAlong action = ⟨.bool false, .bool true⟩ ∧ Plan.filledIn step = sentAlong action := by
  have hlast : ∃ creation, (Program.record World.smooth 8
      ((ofFlow twoMessages none ⟨.null, .null⟩ [] : Task Unit Creation).start ())).2.result? =
        some (.ok creation, ()) ∧ creation.actionOrder = ["email", "sms"] := by
    simp only [ofFlow, traverse_twoMessages]
    exact ⟨_, rfl, rfl⟩
  obtain ⟨plan, hplan⟩ : ∃ plan, Plan.ofFlow twoMessages = .ok plan := by
    rw [Plan.ofFlow, traverse_twoMessages]
    exact ⟨_, rfl⟩
  obtain ⟨creation, hlast, horder⟩ := hlast
  have hrun := Program.reaches_of_record hlast
  obtain ⟨ordered, ht, -, hsame, hmessages⟩ := plan_agrees hrun hplan
  obtain rfl := Except.ok.inj (traverse_twoMessages.symm.trans ht)
  obtain ⟨action, step, haction, -, hstep, hsent, hsmart, hutm⟩ := hmessages 1 _ _ rfl rfl
  have hvalue : Plan.filledIn step = ⟨.bool false, .bool true⟩ :=
    congrArg₂ MessageSettings.mk (Json.firstOf_iff.mp hsmart) (Json.firstOf_iff.mp hutm)
  exact ⟨_, creation, plan, action, step, hrun, hplan, hsame.trans horder, haction, hstep,
    hsent.trans hvalue, hsent.symm⟩

end Payload

end MarketingFlow
