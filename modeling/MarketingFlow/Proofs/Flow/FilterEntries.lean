import MarketingFlow.Proofs.Flow.RoundTrip
import MarketingFlow.Proofs.Flow.Validity

/-!
# Entries of filters

Which entries of a filter's groups validation reports. A group or a condition that is neither an
object nor null is reported by the name of the filter and the place of the group. A null reads as an
object without members and is not reported.
-/

namespace MarketingFlow

open Outcome

/-- Neither an object nor null. -/
def Json.IsForeign (v : Json) : Prop :=
  v ≠ .null ∧ ∀ ms, v ≠ .obj ms

/-- An object whose array of conditions has an entry that is neither an object nor null. -/
def Json.HasForeignCondition (g : Json) : Prop :=
  ∃ ms cs, g = .obj ms ∧ Members.value ms "conditions" = .arr cs ∧ ∃ c ∈ cs, c.IsForeign

/-! ## What the check of a filter finds -/

/-- The filter that a problem is about. -/
def Problem.filter? : Problem → Option String
  | groupsMissing filter => some filter
  | groupNotObject filter _ => some filter
  | conditionNotObject filter _ => some filter
  | _ => none

theorem mem_problemIf_iff {b : Bool} {p q : Problem} : p ∈ problemIf b q ↔ b = true ∧ p = q := by
  cases b <;> simp [problemIf]

theorem Condition.isForeign_ofJson_iff {c : Json} :
    (Condition.ofJson c).isForeign = true ↔ c.IsForeign := by
  cases c <;> simp [Condition.ofJson, Condition.ofMembers, Condition.isForeign, Json.IsForeign]

section

variable {name : String} {g : Json} {place position : Nat}

theorem groupNotObject_mem_checkGroup_iff :
    .groupNotObject name position ∈ checkGroup name (ConditionGroup.ofJson g) place ↔
      position = place ∧ g.IsForeign := by
  cases g <;>
    simp [ConditionGroup.ofJson, ConditionGroup.ofMembers, checkGroup, mem_problemIf_iff,
      Json.IsForeign]

theorem conditionNotObject_mem_checkGroup_iff :
    .conditionNotObject name position ∈ checkGroup name (ConditionGroup.ofJson g) place ↔
      position = place ∧ g.HasForeignCondition := by
  cases g with
  | obj ms =>
    have hany : (((Members.value ms "conditions").items.map Condition.ofJson).any
        Condition.isForeign) = true ↔ (Json.obj ms).HasForeignCondition := by
      simp only [List.any_eq_true, List.mem_map, exists_exists_and_eq_and,
        Condition.isForeign_ofJson_iff, Json.mem_items_iff, Json.HasForeignCondition,
        Json.obj.injEq]
      constructor
      · rintro ⟨c, ⟨cs, hcs, hc⟩, hforeign⟩
        exact ⟨ms, cs, rfl, hcs, c, hc, hforeign⟩
      · rintro ⟨_, cs, rfl, hcs, c, hc, hforeign⟩
        exact ⟨c, ⟨cs, hcs, hc⟩, hforeign⟩
    rw [ConditionGroup.ofJson, ConditionGroup.ofMembers, checkGroup, mem_problemIf_iff, hany]
    simp [and_comm]
  | _ =>
    simp [ConditionGroup.ofJson, checkGroup, mem_problemIf_iff, Json.HasForeignCondition]

theorem filter?_of_mem_checkGroup {group : ConditionGroup} {p : Problem}
    (h : p ∈ checkGroup name group place) : p.filter? = some name := by
  cases group with
  | foreign v =>
    rw [List.mem_singleton.mp h]
    rfl
  | conditions cs =>
    obtain ⟨-, rfl⟩ := mem_problemIf_iff.mp h
    rfl

theorem filter?_of_mem_checkFilter {filter : ConditionFilter} {p : Problem}
    (h : p ∈ checkFilter name filter) : p.filter? = some name := by
  rw [checkFilter] at h
  split at h
  · rw [List.mem_singleton.mp h]
    rfl
  · obtain ⟨⟨group, place⟩, -, hp⟩ := List.mem_flatMap.mp h
    exact filter?_of_mem_checkGroup hp

theorem mem_numbered_iff {α : Type} {xs : List α} {x : α} {n : Nat} :
    (x, n) ∈ numbered xs ↔ ∃ i, n = i + 1 ∧ xs[i]? = some x := by
  rw [numbered, List.mk_mem_zipIdx_iff_le_and_getElem?_sub]
  constructor
  · rintro ⟨hn, hx⟩
    exact ⟨n - 1, by omega, hx⟩
  · rintro ⟨i, rfl, hx⟩
    exact ⟨by omega, hx⟩

theorem exists_at_iff {α : Type} {xs : List α} {i : Nat} {x : α} (hx : xs[i]? = some x)
    {P : α → Prop} : (∃ j y, xs[j]? = some y ∧ i + 1 = j + 1 ∧ P y) ↔ P x := by
  constructor
  · rintro ⟨j, y, hy, hj, h⟩
    obtain rfl : i = j := by omega
    rw [hx] at hy
    cases hy
    exact h
  · exact fun h => ⟨i, x, hx, rfl, h⟩

/-- The check of a filter finds what it finds in each group. -/
theorem mem_checkFilter_iff {ms : Members} {gs : List Json}
    (hgroups : ms.value "condition_groups" = .arr gs) {p : Problem} :
    p ∈ checkFilter name (ConditionFilter.ofMembers ms) ↔
      ∃ i g, gs[i]? = some g ∧ p ∈ checkGroup name (ConditionGroup.ofJson g) (i + 1) := by
  rw [ConditionFilter.ofMembers, hgroups]
  simp only [checkFilter, List.mem_flatMap]
  constructor
  · rintro ⟨⟨group, place⟩, hgroup, hp⟩
    obtain ⟨i, rfl, hi⟩ := mem_numbered_iff.mp hgroup
    rw [List.getElem?_map, Option.map_eq_some_iff] at hi
    obtain ⟨g, hg, rfl⟩ := hi
    exact ⟨i, g, hg, hp⟩
  · rintro ⟨i, g, hg, hp⟩
    refine ⟨(ConditionGroup.ofJson g, i + 1), mem_numbered_iff.mpr ⟨i, rfl, ?_⟩, hp⟩
    rw [List.getElem?_map, hg]
    rfl

end

/-! ## What the other checks find -/

theorem filter?_of_mem_checkTrigger {t : Trigger} {p : Problem} (h : p ∈ checkTrigger t) :
    p.filter? = none := by
  cases t with
  | metric | list | date =>
    obtain ⟨-, rfl⟩ := mem_problemIf_iff.mp h
    rfl
  | other type =>
    rw [List.mem_singleton.mp h]
    rfl

theorem filter?_of_mem_checkReentry {r : Reentry} {p : Problem} (h : p ∈ checkReentry r) :
    p.filter? = none := by
  cases r with
  | foreign v =>
    rw [List.mem_singleton.mp h]
    rfl
  | policy mode value unit =>
    rw [checkReentry] at h
    split at h
    · rw [List.mem_singleton.mp h]
      rfl
    · split at h
      · cases h
      · rcases List.mem_append.mp h with h | h <;> obtain ⟨-, rfl⟩ := mem_problemIf_iff.mp h <;> rfl

theorem filter?_of_mem_checkName {name : Json} {found : List Problem}
    (hfound : checkName name = .ok found) {p : Problem} (h : p ∈ found) : p.filter? = none := by
  cases name with
  | str s =>
    cases hfound
    obtain ⟨-, rfl⟩ := mem_problemIf_iff.mp h
    rfl
  | _ =>
    simp only [checkName] at hfound
    split at hfound
    · cases hfound
    · cases hfound
      rw [List.mem_singleton.mp h]
      rfl

namespace Flow

variable {f : Flow}

theorem filter?_of_mem_checkRequired {found : List Problem} (hfound : f.checkRequired = .ok found)
    {p : Problem} (h : p ∈ found) : p.filter? = none := by
  obtain ⟨named, hn, hfound⟩ := bind_eq_ok_iff.mp hfound
  cases hfound
  simp only [List.mem_append, mem_problemIf_iff] at h
  rcases h with ((h | ⟨-, rfl⟩) | ⟨-, rfl⟩) | ⟨-, rfl⟩
  · exact filter?_of_mem_checkName hn h
  · rfl
  · rfl
  · rfl

theorem filter?_of_mem_checkLinks {ids : List String} {a : Action} {found : List Problem}
    (hfound : checkLinks ids a = .ok found) {p : Problem} (h : p ∈ found) : p.filter? = none := by
  rw [checkLinks] at hfound
  split at hfound
  · cases hfound
    cases h
  · split at hfound
    · cases hfound
      rw [List.mem_singleton.mp h]
      rfl
    · obtain ⟨dangling, hd, hfound⟩ := bind_eq_ok_iff.mp hfound
      cases hfound
      obtain ⟨ps, hps, hp⟩ := List.mem_flatten.mp h
      obtain ⟨link, -, hlink⟩ := (mem_iff_of_mapM hd).mp hps
      obtain ⟨b, -, hb⟩ := bind_eq_ok_iff.mp hlink
      cases hb
      obtain ⟨-, rfl⟩ := mem_problemIf_iff.mp hp
      rfl

theorem filter?_of_mem_checkGraph {found : List Problem} (hfound : f.checkGraph = .ok found)
    {p : Problem} (h : p ∈ found) : p.filter? = none := by
  rw [checkGraph] at hfound
  split at hfound
  · cases hfound
    cases h
  · obtain ⟨entry, he, hfound⟩ := bind_eq_ok_iff.mp hfound
    obtain ⟨links, hl, hfound⟩ := bind_eq_ok_iff.mp hfound
    cases hfound
    simp only [List.mem_append] at h
    rcases h with ((h | h) | h) | h
    · obtain ⟨b, -, hb⟩ := bind_eq_ok_iff.mp he
      cases hb
      obtain ⟨-, rfl⟩ := mem_problemIf_iff.mp h
      rfl
    · obtain ⟨⟨a, position⟩, -, hp⟩ := List.mem_flatMap.mp h
      rw [checkId] at hp
      split at hp
      · rw [List.mem_singleton.mp hp]
        rfl
      · obtain ⟨-, rfl⟩ := mem_problemIf_iff.mp hp
        rfl
    · obtain ⟨id, -, hid⟩ := List.mem_filterMap.mp h
      split at hid
      · cases hid
        rfl
      · cases hid
    · obtain ⟨ps, hps, hp⟩ := List.mem_flatten.mp h
      obtain ⟨a, -, ha⟩ := (mem_iff_of_mapM hl).mp hps
      exact filter?_of_mem_checkLinks ha hp

/-- A problem with a filter is found by the check of the filter of that name. -/
theorem mem_problems_iff {v : Verdict} (hv : f.validate = .ok v) {name : String} {p : Problem}
    (hp : p.filter? = some name) :
    p ∈ v.problems ↔ ∃ filter, (name, filter) ∈ f.filters ∧ p ∈ checkFilter name filter := by
  have hne : p.filter? ≠ none := by
    rw [hp]
    exact Option.some_ne_none name
  obtain ⟨required, graph, unreachable, hr, hg, -, hproblems, -⟩ := validate_eq_ok_iff.mp hv
  rw [hproblems]
  simp only [List.mem_append, List.mem_flatMap]
  constructor
  · rintro ((((h | h) | h) | h) | ⟨⟨name', filter⟩, hfilter, h⟩)
    · exact absurd (filter?_of_mem_checkRequired hr h) hne
    · cases ht : f.trigger with
      | none => simp [ht] at h
      | some t =>
        rw [ht] at h
        exact absurd (filter?_of_mem_checkTrigger h) hne
    · exact absurd (filter?_of_mem_checkGraph hg h) hne
    · cases hr : f.reentry with
      | none => simp [hr] at h
      | some r =>
        rw [hr] at h
        exact absurd (filter?_of_mem_checkReentry h) hne
    · have hname := filter?_of_mem_checkFilter h
      rw [hp] at hname
      cases hname
      exact ⟨filter, hfilter, h⟩
  · rintro ⟨filter, hfilter, h⟩
    exact .inr ⟨(name, filter), hfilter, h⟩

/-! ## Documents -/

/-- Where a document has its filters, with the names under which they are reported. -/
inductive FilterAt (d : Members) : String → Json → Prop
  | profile : FilterAt d "profile_filter" (d.value "profile_filter")
  | trigger {t : Members} (ht : d.value "trigger" = .obj t)
      (htype : t.value "type" = .str "metric") :
      FilterAt d "trigger_filter" (t.value "trigger_filter")

theorem mem_filters_iff {name : String} {filter : ConditionFilter} :
    (name, filter) ∈ f.filters ↔ name = "profile_filter" ∧ f.profileFilter = some filter ∨
      name = "trigger_filter" ∧ f.trigger.bind Trigger.filter? = some filter := by
  simp only [filters, List.mem_append, Option.mem_toList, Option.map_eq_some_iff, Prod.mk.injEq]
  constructor
  · rintro (⟨_, h, rfl, rfl⟩ | ⟨_, h, rfl, rfl⟩)
    · exact .inl ⟨rfl, h⟩
    · exact .inr ⟨rfl, h⟩
  · rintro (⟨rfl, h⟩ | ⟨rfl, h⟩)
    · exact .inl ⟨filter, h, rfl, rfl⟩
    · exact .inr ⟨filter, h, rfl, rfl⟩

theorem mem_filters_iff_of_filterAt {d ms : Members} (hd : Flow.ofMembers d = .ok f)
    {name : String} (h : FilterAt d name (.obj ms)) {filter : ConditionFilter} :
    (name, filter) ∈ f.filters ↔ filter = ConditionFilter.ofMembers ms := by
  obtain ⟨tags, -, hd⟩ := bind_eq_ok_iff.mp hd
  cases hd
  generalize hv : Json.obj ms = v at h
  rw [mem_filters_iff]
  cases h with
  | profile =>
    have hprofile : ConditionFilter.ofMember (d.value "profile_filter") =
        some (ConditionFilter.ofMembers ms) := by
      rw [← hv]
      rfl
    simp [hprofile, eq_comm (a := filter)]
  | @trigger t ht htype =>
    have hmetric : Trigger.ofMembers t = .metric ((Members.value t "metric_name").orElse (.str ""))
        (Members.value t "metric_id") (some (ConditionFilter.ofMembers ms)) := by
      rw [Trigger.ofMembers, typeText_of_value htype, ← hv]
      rfl
    simp [ht, hmetric, Trigger.filter?, eq_comm (a := filter)]

/-- What validation says of the group `g` at the place `i` of the filter with the given name. -/
structure ReportsGroup (v : Verdict) (name : String) (i : Nat) (g : Json) : Prop where
  group : .groupNotObject name (i + 1) ∈ v.problems ↔ g.IsForeign
  condition : .conditionNotObject name (i + 1) ∈ v.problems ↔ g.HasForeignCondition
  invalid : g.IsForeign ∨ g.HasForeignCondition → v.valid = false
  groupText : g.IsForeign →
    name ++ " condition group #" ++ toString (i + 1) ++ " is not an object." ∈ v.errors
  conditionText : g.HasForeignCondition →
    name ++ " condition group #" ++ toString (i + 1) ++
      " has a condition that is not an object." ∈ v.errors

/-- Of the entries of a filter, those that are neither objects nor null are reported. -/
theorem reportsGroup {d : Members} {f : Flow} {v : Verdict} (hd : Flow.ofJson (.obj d) = .ok f)
    (hv : f.validate = .ok v) {name : String} {ms : Members} (hfilter : FilterAt d name (.obj ms))
    {gs : List Json} (hgroups : ms.value "condition_groups" = .arr gs) {i : Nat} {g : Json}
    (hg : gs[i]? = some g) : ReportsGroup v name i g := by
  have hfound : ∀ p : Problem, p.filter? = some name →
      (p ∈ v.problems ↔
        ∃ i g, gs[i]? = some g ∧ p ∈ checkGroup name (ConditionGroup.ofJson g) (i + 1)) := by
    intro p hp
    rw [mem_problems_iff hv hp, ← mem_checkFilter_iff hgroups]
    simp [mem_filters_iff_of_filterAt hd hfilter]
  have hgroup : .groupNotObject name (i + 1) ∈ v.problems ↔ g.IsForeign := by
    rw [hfound _ rfl]
    simp only [groupNotObject_mem_checkGroup_iff, exists_at_iff hg]
  have hcondition : .conditionNotObject name (i + 1) ∈ v.problems ↔ g.HasForeignCondition := by
    rw [hfound _ rfl]
    simp only [conditionNotObject_mem_checkGroup_iff, exists_at_iff hg]
  have hinvalid : ∀ p ∈ v.problems, v.valid = false := by
    intro p hp
    rw [Verdict.valid, List.isEmpty_eq_false_iff]
    exact List.ne_nil_of_mem hp
  exact {
    group := hgroup
    condition := hcondition
    invalid := by
      rintro (h | h)
      · exact hinvalid _ (hgroup.mpr h)
      · exact hinvalid _ (hcondition.mpr h)
    groupText := fun h => List.mem_map_of_mem (hgroup.mpr h)
    conditionText := fun h => List.mem_map_of_mem (hcondition.mpr h) }

/-- A flow for guests whose filter has a null and a text in the places of groups. -/
def guests : Members :=
  [("name", .str "Guests"), ("trigger", .obj [("type", .str "list"), ("list_id", .str "L1")]),
    ("actions", .arr [.obj [("id", .str "wait"), ("type", .str "time-delay")]]),
    ("entry_action_id", .str "wait"),
    ("profile_filter", .obj [("condition_groups", .arr [.null, .str "vip"])])]

theorem guests_reportsGroup :
    ∃ f v, Flow.ofJson (.obj guests) = .ok f ∧ f.validate = .ok v ∧
      v.errors = ["profile_filter condition group #2 is not an object."] ∧
      ReportsGroup v "profile_filter" 0 .null ∧ ReportsGroup v "profile_filter" 1 (.str "vip") := by
  have hv : ∃ f, Flow.ofJson (.obj guests) = .ok f ∧
      f.validate = .ok ⟨[.groupNotObject "profile_filter" 2], []⟩ :=
    ⟨_, rfl, by cbv⟩
  obtain ⟨f, hd, hv⟩ := hv
  have hfilter : FilterAt guests "profile_filter"
      (.obj [("condition_groups", .arr [.null, .str "vip"])]) := .profile
  exact ⟨f, _, hd, hv, by decide +kernel, reportsGroup hd hv hfilter rfl rfl,
    reportsGroup hd hv hfilter rfl rfl⟩

end Flow

end MarketingFlow
