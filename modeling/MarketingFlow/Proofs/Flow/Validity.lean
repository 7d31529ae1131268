import MarketingFlow.Flow.Validation
import MarketingFlow.Proofs.Outcome
import Mathlib

/-!
# What a valid flow is

`Flow.WellFormed` says, without naming any check, what a flow needs in order to be built. A flow
that can be validated at all has no problem exactly when it is well formed. Each check has a lemma
that says when it finds nothing; the checks that are left out after an earlier problem are the ones
that the problem makes meaningless.
-/

namespace MarketingFlow

/-! ## Well-formed parts -/

/-- A trigger that names what it waits for. -/
def Trigger.Complete : Trigger → Prop
  | metric name id _ => name.given = true ∨ id.given = true
  | list name id => name.given = true ∨ id.given = true
  | date property _ => property.given = true
  | other _ => False

/-- A number that is not at or below zero. Truth values are no numbers. -/
def Json.AboveZero : Json → Prop
  | int n => ¬ n ≤ 0
  | float x => ¬ x ≤ 0
  | _ => False

def Reentry.WellFormed : Reentry → Prop
  | foreign _ => False
  | policy mode value unit =>
    mode = "once" ∨ mode = "multiple" ∨
      (mode = "time-based" ∧ value.AboveZero ∧
        (unit = .str "hours" ∨ unit = .str "days" ∨ unit = .str "weeks"))

def ConditionGroup.WellFormed : ConditionGroup → Prop
  | conditions cs => ∀ c ∈ cs, c.isForeign = false
  | foreign _ => False

def ConditionFilter.WellFormed (filter : ConditionFilter) : Prop :=
  ∃ gs, filter.groups = some gs ∧ ∀ g ∈ gs, g.WellFormed

/-- The types that an action may have. -/
def actionTypes : List String :=
  ["time-delay", "send-email", "send-sms", "conditional-split", "ab-split"]

namespace Flow

/-- Some action has the target as its id. -/
def Defines (f : Flow) (target : Json) : Prop :=
  ∃ a ∈ f.actions, target = .str a.id

structure WellFormed (f : Flow) : Prop where
  name : ∃ s, f.name = .str s ∧ Text.trim s.toList ≠ []
  trigger : ∃ t, f.trigger = some t ∧ t.Complete
  actions : f.actions ≠ []
  entry : f.entry.given = true ∧ f.Defines f.entry
  kinds : ∀ a ∈ f.actions, a.work.isForeign = false ∧ a.id ≠ "" ∧ a.typeName ∈ actionTypes
  ids : (f.actions.map Action.id).Nodup
  links : ∀ a ∈ f.actions, ∀ link ∈ a.links, link.2.given = true → f.Defines link.2
  reentry : ∀ r, f.reentry = some r → r.WellFormed
  profileFilter : ∀ filter, f.profileFilter = some filter → filter.WellFormed
  triggerFilter : ∀ name id filter,
    f.trigger = some (.metric name id (some filter)) → filter.WellFormed

end Flow

/-! ## When a check finds nothing -/

@[simp] theorem problemIf_eq_nil_iff {b : Bool} {p : Problem} :
    problemIf b p = [] ↔ b = false := by
  cases b <;> simp [problemIf]

theorem checkName_eq_nil_iff {name : Json} :
    checkName name = .ok [] ↔ ∃ s, name = .str s ∧ Text.trim s.toList ≠ [] := by
  constructor
  · intro h
    cases name with
    | str s =>
      refine ⟨s, rfl, ?_⟩
      rw [checkName] at h
      have hblank := problemIf_eq_nil_iff.mp (Except.ok.inj h)
      rw [Ne, Text.trim_eq_nil_iff, Bool.not_eq_true]
      exact hblank
    | _ =>
      simp only [checkName] at h
      split at h <;> cases h
  · rintro ⟨s, rfl, hs⟩
    rw [Ne, Text.trim_eq_nil_iff, Bool.not_eq_true] at hs
    rw [checkName, Text.AllBlank, problemIf_eq_nil_iff.mpr hs]

theorem checkTrigger_eq_nil_iff {t : Trigger} : checkTrigger t = [] ↔ t.Complete := by
  cases t with
  | metric name id filter =>
    rw [checkTrigger, problemIf_eq_nil_iff, Trigger.Complete]
    cases name.given <;> cases id.given <;> simp
  | list name id =>
    rw [checkTrigger, problemIf_eq_nil_iff, Trigger.Complete]
    cases name.given <;> cases id.given <;> simp
  | date property offset => simp [checkTrigger, Trigger.Complete]
  | other type => simp [checkTrigger, Trigger.Complete]

theorem danglingTarget_eq_false_iff {ids : List String} {target : Json} :
    danglingTarget ids target = .ok false ↔
      (target.given = true → ∃ id ∈ ids, target = .str id) := by
  rw [danglingTarget]
  cases hg : target.given with
  | false => simp
  | true =>
    cases target with
    | str id => simp [Json.asKey, Json.isKey]
    | _ => simp [Json.asKey, Json.isKey]

theorem checkRepeats_eq_nil_iff {ids : List String} : checkRepeats ids = [] ↔ ids.Nodup := by
  rw [checkRepeats, List.filterMap_eq_nil_iff, List.nodup_iff_count_le_one]
  constructor
  · intro h id
    by_cases hid : id ∈ ids
    · have hcount := h id (List.mem_eraseDups.mpr hid)
      split at hcount
      · cases hcount
      · omega
    · rw [List.count_eq_zero_of_not_mem hid]
      exact Nat.zero_le 1
  · intro h id _
    rw [if_neg (Nat.not_lt.mpr (h id))]

theorem checkLinks_eq_nil_iff {ids : List String} {a : Action} (ha : a.work.isForeign = false) :
    checkLinks ids a = .ok [] ↔ a.work.isKnown = true ∧
      ∀ link ∈ a.links, link.2.given = true → ∃ id ∈ ids, link.2 = .str id := by
  rw [checkLinks, ha]
  cases hk : a.work.isKnown with
  | false => simp
  | true =>
    simp only [Bool.false_eq_true, if_false, Bool.not_true, true_and]
    change (_ >>= fun found => Except.ok (List.flatten found)) = _ ↔ _
    have hflat : ∀ x : Except Failure (List (List Problem)),
        (x >>= fun found => Except.ok found.flatten) = .ok [] ↔
          ∃ found, x = .ok found ∧ found.flatten = [] := by
      intro x
      rw [Outcome.bind_eq_ok_iff]
      simp
    rw [hflat, Outcome.mapM_flatten_eq_nil_iff]
    refine forall₂_congr fun link _ => ?_
    rw [← danglingTarget_eq_false_iff, Outcome.bind_eq_ok_iff]
    constructor
    · rintro ⟨dangling, hd, hp⟩
      rw [hd, problemIf_eq_nil_iff.mp (Except.ok.inj hp)]
    · intro hd
      exact ⟨false, hd, rfl⟩

theorem positiveNumber_eq_true_iff {v : Json} : positiveNumber v = true ↔ v.AboveZero := by
  cases v <;> simp [positiveNumber, Json.AboveZero]

theorem isReentryUnit_eq_true_iff {v : Json} :
    isReentryUnit v = true ↔ v = .str "hours" ∨ v = .str "days" ∨ v = .str "weeks" := by
  cases v <;> simp [isReentryUnit, reentryUnits]

theorem checkReentry_eq_nil_iff {r : Reentry} : checkReentry r = [] ↔ r.WellFormed := by
  cases r with
  | foreign v => simp [checkReentry, Reentry.WellFormed]
  | policy mode value unit =>
    rw [checkReentry, Reentry.WellFormed, ← positiveNumber_eq_true_iff,
      ← isReentryUnit_eq_true_iff]
    by_cases hmode : mode = Reentry.timeBased
    · subst hmode
      simp [reentryModes, Reentry.timeBased]
    · have hne : mode ≠ "time-based" := hmode
      by_cases hknown : mode = "once" ∨ mode = "multiple"
      · rcases hknown with rfl | rfl <;> simp [reentryModes, Reentry.timeBased]
      · simp [reentryModes, hmode, hne, hknown]

theorem checkGroup_eq_nil_iff {name : String} {g : ConditionGroup} {position : Nat} :
    checkGroup name g position = [] ↔ g.WellFormed := by
  cases g <;> simp [checkGroup, ConditionGroup.WellFormed]

/-- What holds of an item wherever it stands. -/
theorem forall_mem_numbered {α : Type} {xs : List α} {P : α → Prop} :
    (∀ x ∈ numbered xs, P x.1) ↔ ∀ x ∈ xs, P x := by
  rw [numbered]
  constructor
  · intro h x hx
    obtain ⟨i, hi, rfl⟩ := List.getElem_of_mem hx
    exact h (xs[i], i + 1) (by simp [List.mk_mem_zipIdx_iff_le_and_getElem?_sub])
  · rintro h ⟨x, i⟩ hx
    exact h x (List.fst_mem_of_mem_zipIdx hx)

theorem checkFilter_eq_nil_iff {name : String} {filter : ConditionFilter} :
    checkFilter name filter = [] ↔ filter.WellFormed := by
  rw [checkFilter, ConditionFilter.WellFormed]
  cases filter.groups with
  | none => simp
  | some gs =>
    simp only [List.flatMap_eq_nil_iff, checkGroup_eq_nil_iff, Option.some.injEq,
      exists_eq_left', forall_mem_numbered]

namespace Flow

/-- A target that is given is defined if and only if it is among the ids that a link can name. -/
theorem exists_mem_givenIds_iff {f : Flow} {target : Json} (hg : target.given = true) :
    (∃ id ∈ f.givenIds, target = .str id) ↔ f.Defines target := by
  constructor
  · rintro ⟨id, hid, rfl⟩
    obtain ⟨hmem, -⟩ := List.mem_filter.mp hid
    obtain ⟨a, ha, rfl⟩ := List.mem_map.mp hmem
    exact ⟨a, ha, rfl⟩
  · rintro ⟨a, ha, rfl⟩
    have hne : a.id ≠ "" := Json.given_str.mp hg
    exact ⟨a.id, List.mem_filter.mpr ⟨List.mem_map.mpr ⟨a, ha, rfl⟩, by simpa using hne⟩, rfl⟩

theorem checkEntry_eq_nil_iff {f : Flow} (hg : f.entry.given = true) :
    checkEntry f.givenIds f.entry = .ok [] ↔ f.Defines f.entry := by
  rw [checkEntry, Outcome.bind_eq_ok_iff, ← exists_mem_givenIds_iff hg]
  constructor
  · rintro ⟨dangling, hd, hp⟩
    rw [problemIf_eq_nil_iff.mp (Except.ok.inj hp)] at hd
    exact danglingTarget_eq_false_iff.mp hd hg
  · intro h
    exact ⟨false, danglingTarget_eq_false_iff.mpr fun _ => h, rfl⟩

theorem checkId_eq_nil_iff {a : Action} {position : Nat} :
    checkId a position = [] ↔ a.work.isForeign = false ∧ a.id ≠ "" := by
  rw [checkId]
  cases a.work.isForeign <;> simp

/-- With an id for every action, no id is repeated if and only if all ids differ. -/
theorem checkRepeats_givenIds_eq_nil_iff {f : Flow} (hids : ∀ a ∈ f.actions, a.id ≠ "") :
    checkRepeats f.givenIds = [] ↔ (f.actions.map Action.id).Nodup := by
  have hall : f.givenIds = f.ids := by
    rw [givenIds, List.filter_eq_self]
    intro id hid
    obtain ⟨a, ha, rfl⟩ := List.mem_map.mp hid
    simpa using hids a ha
  rw [checkRepeats_eq_nil_iff, hall, ids]

theorem checkRequired_eq_nil_iff {f : Flow} :
    f.checkRequired = .ok [] ↔
      (∃ s, f.name = .str s ∧ Text.trim s.toList ≠ []) ∧ f.trigger.isSome = true ∧
        f.actions ≠ [] ∧ f.entry.given = true := by
  rw [← checkName_eq_nil_iff, checkRequired, Outcome.bind_eq_ok_iff]
  constructor
  · rintro ⟨named, hn, h⟩
    have hnil := Except.ok.inj h
    simp only [List.append_eq_nil_iff, problemIf_eq_nil_iff] at hnil
    obtain ⟨⟨⟨rfl, ht⟩, ha⟩, he⟩ := hnil
    refine ⟨hn, ?_, ?_, ?_⟩
    · simpa [Option.isSome_iff_ne_none] using ht
    · simpa using ha
    · simpa using he
  · rintro ⟨hn, ht, ha, he⟩
    refine ⟨[], hn, ?_⟩
    have hsome : f.trigger.isNone = false := by
      rw [Option.isNone_eq_false_iff]
      exact ht
    rw [hsome, he]
    simp [problemIf, ha]

theorem checkGraph_eq_nil_iff {f : Flow} (hne : f.actions ≠ []) :
    f.checkGraph = .ok [] ↔
      checkEntry f.givenIds f.entry = .ok [] ∧
        (∀ a ∈ f.actions, a.work.isForeign = false ∧ a.id ≠ "") ∧
        checkRepeats f.givenIds = [] ∧ ∀ a ∈ f.actions, checkLinks f.givenIds a = .ok [] := by
  have hids : (numbered f.actions).flatMap (fun x => checkId x.1 x.2) = [] ↔
      ∀ a ∈ f.actions, a.work.isForeign = false ∧ a.id ≠ "" := by
    rw [List.flatMap_eq_nil_iff]
    simp only [checkId_eq_nil_iff]
    exact forall_mem_numbered (P := fun a : Action => a.work.isForeign = false ∧ a.id ≠ "")
  have hempty : f.actions.isEmpty = false := by simpa using hne
  rw [checkGraph, hempty, ← Outcome.mapM_flatten_eq_nil_iff, ← hids]
  simp only [Bool.false_eq_true, if_false, Outcome.pure_eq, Outcome.bind_eq_ok_iff,
    Except.ok.injEq, List.append_eq_nil_iff]
  constructor
  · rintro ⟨entry, he, found, hf, ⟨⟨rfl, hi⟩, hr⟩, hl⟩
    exact ⟨he, hi, hr, found, hf, hl⟩
  · rintro ⟨he, hi, hr, found, hf, hl⟩
    exact ⟨[], he, found, hf, ⟨⟨rfl, hi⟩, hr⟩, hl⟩

theorem filters_eq_nil_iff {f : Flow} :
    (f.filters.flatMap fun filter => checkFilter filter.1 filter.2) = [] ↔
      (∀ filter, f.profileFilter = some filter → filter.WellFormed) ∧
        ∀ name id filter, f.trigger = some (.metric name id (some filter)) →
          filter.WellFormed := by
  have htrigger : ∀ filter, f.trigger.bind Trigger.filter? = some filter ↔
      ∃ name id, f.trigger = some (.metric name id (some filter)) := by
    intro filter
    rcases f.trigger with _ | (_ | _ | _ | _) <;> simp [Trigger.filter?]
  simp only [filters, List.flatMap_append, List.append_eq_nil_iff, List.flatMap_eq_nil_iff,
    Option.mem_toList, Option.map_eq_some_iff]
  apply and_congr
  · constructor
    · intro h filter hf
      exact checkFilter_eq_nil_iff.mp (h _ ⟨filter, hf, rfl⟩)
    · rintro h _ ⟨filter, hf, rfl⟩
      exact checkFilter_eq_nil_iff.mpr (h filter hf)
  · constructor
    · intro h name id filter hf
      exact checkFilter_eq_nil_iff.mp (h _ ⟨filter, (htrigger filter).mpr ⟨name, id, hf⟩, rfl⟩)
    · rintro h _ ⟨filter, hf, rfl⟩
      obtain ⟨name, id, ht⟩ := (htrigger filter).mp hf
      exact checkFilter_eq_nil_iff.mpr (h name id filter ht)

end Flow

/-- An action of a document is of a known kind if and only if its type is one of the five. -/
theorem Action.isKnown_ofJson_iff {v : Json} :
    (Action.ofJson v).work.isKnown = true ↔ (Action.ofJson v).typeName ∈ actionTypes := by
  cases v with
  | obj ms =>
    change (Action.workOfMembers (Members.typeText ms) ms).isKnown = true ↔
      (Action.workOfMembers (Members.typeText ms) ms).typeName ∈ actionTypes
    unfold Action.workOfMembers
    split
    iterate 5 simp [Work.isKnown, Work.typeName, actionTypes]
    simp_all [Work.isKnown, Work.typeName, actionTypes]
  | _ => simp [Action.ofJson, Work.isKnown, Action.typeName, Work.typeName, actionTypes]

namespace Flow

theorem mem_actions_ofJson {d : Json} {f : Flow} (hd : Flow.ofJson d = .ok f) {a : Action}
    (ha : a ∈ f.actions) : ∃ v, a = Action.ofJson v := by
  rw [Flow.ofJson, Outcome.bind_eq_ok_iff] at hd
  obtain ⟨ms, -, hd⟩ := hd
  rw [Flow.ofMembers, Outcome.bind_eq_ok_iff] at hd
  obtain ⟨tags, -, hd⟩ := hd
  cases hd
  obtain ⟨v, -, rfl⟩ := List.mem_map.mp ha
  exact ⟨v, rfl⟩

/-- The parts of a verdict: what each group of checks found. -/
theorem validate_eq_ok_iff {f : Flow} {v : Verdict} :
    f.validate = .ok v ↔ ∃ required graph unreachable, f.checkRequired = .ok required ∧
      f.checkGraph = .ok graph ∧ f.unreachable = .ok unreachable ∧
      v.problems = required ++ (f.trigger.map checkTrigger).getD [] ++ graph ++
        (f.reentry.map checkReentry).getD [] ++
        f.filters.flatMap (fun filter => checkFilter filter.1 filter.2) ∧
      v.remarks = f.filters.flatMap (fun filter => remarkFilter filter.1 filter.2) ++
        unreachable := by
  rw [validate]
  simp only [Outcome.bind_eq_ok_iff, Outcome.pure_eq, Except.ok.injEq]
  constructor
  · rintro ⟨required, hr, graph, hg, unreachable, hu, rfl⟩
    exact ⟨required, graph, unreachable, hr, hg, hu, rfl, rfl⟩
  · rintro ⟨required, graph, unreachable, hr, hg, hu, hp, hm⟩
    refine ⟨required, hr, graph, hg, unreachable, hu, ?_⟩
    rw [← hp, ← hm]

/-- A flow of a document that can be validated is valid if and only if it is well formed, and it is
valid if and only if nothing is reported. -/
theorem valid_iff_wellFormed {d : Json} {f : Flow} {v : Verdict} (hd : Flow.ofJson d = .ok f)
    (hv : f.validate = .ok v) :
    (v.valid = true ↔ f.WellFormed) ∧ (v.valid = true ↔ v.errors = []) := by
  refine ⟨?_, by simp [Verdict.valid, Verdict.errors]⟩
  obtain ⟨required, graph, unreachable, hr, hg, -, hp, -⟩ := validate_eq_ok_iff.mp hv
  rw [Verdict.valid, List.isEmpty_iff, hp]
  simp only [List.append_eq_nil_iff, filters_eq_nil_iff]
  constructor
  · rintro ⟨⟨⟨⟨rfl, ht⟩, rfl⟩, hre⟩, hprofile, htrigger⟩
    obtain ⟨hname, hsome, hne, hentry⟩ := checkRequired_eq_nil_iff.mp hr
    obtain ⟨he, hi, hrep, hl⟩ := (checkGraph_eq_nil_iff hne).mp hg
    obtain ⟨t, hft⟩ := Option.isSome_iff_exists.mp hsome
    rw [hft] at ht
    have hlinks := fun a ha => (checkLinks_eq_nil_iff (hi a ha).1).mp (hl a ha)
    exact {
      name := hname
      trigger := ⟨t, hft, checkTrigger_eq_nil_iff.mp ht⟩
      actions := hne
      entry := ⟨hentry, (checkEntry_eq_nil_iff hentry).mp he⟩
      kinds := by
        intro a ha
        obtain ⟨v, rfl⟩ := mem_actions_ofJson hd ha
        exact ⟨(hi _ ha).1, (hi _ ha).2, Action.isKnown_ofJson_iff.mp (hlinks _ ha).1⟩
      ids := (checkRepeats_givenIds_eq_nil_iff fun a ha => (hi a ha).2).mp hrep
      links := fun a ha link hlink hgiven =>
        (exists_mem_givenIds_iff hgiven).mp ((hlinks a ha).2 link hlink hgiven)
      reentry := by
        intro r hfr
        rw [hfr] at hre
        exact checkReentry_eq_nil_iff.mp hre
      profileFilter := hprofile
      triggerFilter := htrigger }
  · intro h
    obtain ⟨t, hft, htc⟩ := h.trigger
    have hrequired : f.checkRequired = .ok [] := checkRequired_eq_nil_iff.mpr
      ⟨h.name, by rw [hft]; rfl, h.actions, h.entry.1⟩
    have hgraph : f.checkGraph = .ok [] := by
      refine (checkGraph_eq_nil_iff h.actions).mpr ⟨?_, ?_, ?_, ?_⟩
      · exact (checkEntry_eq_nil_iff h.entry.1).mpr h.entry.2
      · exact fun a ha => ⟨(h.kinds a ha).1, (h.kinds a ha).2.1⟩
      · exact (checkRepeats_givenIds_eq_nil_iff fun a ha => (h.kinds a ha).2.1).mpr h.ids
      · intro a ha
        obtain ⟨hforeign, -, htype⟩ := h.kinds a ha
        refine (checkLinks_eq_nil_iff hforeign).mpr ⟨?_, fun link hlink hgiven => ?_⟩
        · obtain ⟨v, rfl⟩ := mem_actions_ofJson hd ha
          exact Action.isKnown_ofJson_iff.mpr htype
        · exact (exists_mem_givenIds_iff hgiven).mpr (h.links a ha link hlink hgiven)
    rw [hrequired] at hr
    rw [hgraph] at hg
    cases hr
    cases hg
    refine ⟨⟨⟨⟨rfl, ?_⟩, rfl⟩, ?_⟩, h.profileFilter, h.triggerFilter⟩
    · rw [hft]
      exact checkTrigger_eq_nil_iff.mpr htc
    · cases hfr : f.reentry with
      | none => rfl
      | some r => exact checkReentry_eq_nil_iff.mpr (h.reentry r hfr)

/-- A flow with a split whose branches meet again, a filter and a time-based policy. -/
def winback : Json :=
  .obj [("name", .str " Winback "),
    ("trigger", .obj [("type", .str "metric"), ("metric_id", .str "M1"),
      ("trigger_filter", .obj [("condition_groups", .arr
        [.obj [("conditions", .arr [.obj [("type", .str "profile-property")]])]])])]),
    ("actions", .arr
      [.obj [("id", .str "split"), ("type", .str "conditional-split"),
          ("next_if_true", .str "wait"), ("next_if_false", .str "mail")],
        .obj [("id", .str "wait"), ("type", .str "time-delay"), ("next", .str "mail")],
        .obj [("id", .str "mail"), ("type", .str "send-email"), ("next", .null)]]),
    ("entry_action_id", .str "split"),
    ("settings", .obj [("reentry", .obj
      [("mode", .str "time-based"), ("value", .int 30), ("unit", .str "days")])])]

theorem winback_wellFormed :
    ∃ f v, Flow.ofJson winback = .ok f ∧ f.validate = .ok v ∧ v.errors = [] ∧ f.WellFormed := by
  refine ⟨_, ⟨[], []⟩, rfl, by cbv, rfl, ?_⟩
  exact (valid_iff_wellFormed (d := winback) rfl (by cbv)).1.mp rfl

end Flow

end MarketingFlow
