import MarketingFlow.Proofs.Flow.Confounding

/-!
# Actions out of reach

`Flow.Reaches` says which ids the entry leads to. The warnings of a flow that can be validated are
those about its filters and then one for each action that has an id and is out of reach, in the
order of definition; there are none of the second kind when the entry names no action. An id that is
empty names no action for anyone who asks, but for the warnings it does: where the entry is empty
and an action has no id, they take that action for the entry.
-/

namespace MarketingFlow.Flow

open Outcome

/-- The entry leads to the id over links that are given and name actions. -/
inductive Reaches (f : Flow) : String → Prop where
  | entry {id : String} (h : f.entry = .str id) (hid : id ∈ f.ids) : Reaches f id
  | link {id next : String} {a : Action} (h : Reaches f id) (ha : f.find? id = some a)
      (hnext : .str next ∈ a.nextIds) (hid : next ∈ f.ids) : Reaches f next

/-- The texts about what is odd in the filters. -/
def filterWarnings (f : Flow) : List String :=
  (f.filters.flatMap fun filter => remarkFilter filter.1 filter.2).map Remark.message

open scoped Classical in
/-- One text for each action that has an id and is out of reach. -/
noncomputable def reachWarnings (f : Flow) : List String :=
  (f.actions.filter fun a => a.id ≠ "" ∧ ¬ f.Reaches a.id).map fun a =>
    "Action " ++ quoted a.id ++ " is not reachable from entry action " ++ quoted f.entry.text ++ "."

variable {f : Flow}

/-- What the entry leads to is the least set with the entry that is closed under links. -/
theorem isLeast_reaches (f : Flow) :
    IsLeast {S : Set String | f.Closed S} {id | f.Reaches id} := by
  constructor
  · constructor
    · exact fun id => .entry
    · exact fun id h a ha next hnext hid => .link h ha hnext hid
  · intro S hS id h
    induction h with
    | entry h hid => exact hS.entry _ h hid
    | link _ ha hnext hid ih => exact hS.links _ ih _ ha _ hnext hid

theorem mem_reachableIds_iff (hf : ∀ a ∈ f.actions, ∀ target ∈ a.nextIds, target.isKey = true)
    {ids : List String} (h : f.reachableIds = .ok ids) (id : String) :
    id ∈ ids ↔ f.Reaches id := by
  have hentry : f.entry.isKey = true := by
    by_contra hkey
    rw [reachableIds, spread, Json.asKey, if_neg hkey] at h
    cases h
  obtain ⟨found, hspread, hsearch⟩ :=
    search_of_spread hf (unseen_nil f).symm (List.forall_mem_singleton.mpr hentry)
  rw [reachableIds, hspread] at h
  cases h
  exact Set.ext_iff.mp (hsearch.isLeast.unique f.isLeast_reaches) id

/-! ## The entry -/

theorem resolve_eq_ok_some_iff {target : Json} {a : Action} :
    f.resolve target = .ok (some a) ↔ ∃ id, target = .str id ∧ f.find? id = some a := by
  cases target <;> simp [resolve, Json.asKey, Json.isKey]

theorem defines_str_iff {id : String} : f.Defines (.str id) ↔ id ∈ f.ids := by
  simp [Defines, ids, eq_comm]

theorem exists_resolve_iff {target : Json} :
    (∃ a, f.resolve target = .ok (some a)) ↔ f.Defines target := by
  simp only [resolve_eq_ok_some_iff]
  constructor
  · rintro ⟨a, id, rfl, ha⟩
    obtain ⟨hmem, rfl⟩ := find?_eq_some ha
    exact ⟨a, hmem, rfl⟩
  · rintro ⟨a, ha, rfl⟩
    cases hfirst : f.find? a.id with
    | none => exact absurd (List.mem_map_of_mem ha) (find?_eq_none_iff.mp hfirst)
    | some b => exact ⟨b, a.id, rfl, hfirst⟩

/-- An empty target names no action, whether or not an action has no id. -/
theorem exists_get_iff {target : Json} :
    (∃ a, f.get target = .ok (some a)) ↔ f.Defines target ∧ target ≠ .str "" := by
  rw [get]
  cases hgiven : target.given with
  | false =>
    refine iff_of_false (by simp) ?_
    rintro ⟨⟨a, -, rfl⟩, hne⟩
    exact hne (congrArg Json.str (by simpa [Json.given] using hgiven))
  | true =>
    rw [if_pos rfl, exists_resolve_iff, iff_self_and]
    rintro - rfl
    cases hgiven

/-- For the warnings, an entry names an action if it is the id of one, be it empty or not. -/
theorem eq_true_of_entryResolves {resolves : Bool} (h : f.entryResolves = .ok resolves) :
    resolves = true ↔ f.Defines f.entry := by
  rw [entryResolves] at h
  split at h
  · next hempty =>
    cases h
    simp [Defines, List.isEmpty_iff.mp hempty]
  · obtain ⟨named, hnamed, h⟩ := bind_eq_ok_iff.mp h
    cases h
    rw [← exists_resolve_iff, hnamed]
    simp [Option.isSome_iff_exists]

/-! ## The warnings -/

theorem reachWarnings_eq {ids : List String} (h : ∀ id, id ∈ ids ↔ f.Reaches id) :
    (f.givenIds.filterMap fun id =>
      if ids.contains id then none else some (Remark.unreachable id f.entry)).map Remark.message =
        f.reachWarnings := by
  rw [givenIds, Flow.ids, reachWarnings]
  induction f.actions with
  | nil => rfl
  | cons a rest ih =>
    rw [List.map_cons]
    by_cases hempty : a.id = ""
    · rw [List.filter_cons_of_neg (by simp [hempty]), List.filter_cons_of_neg (by simp [hempty]),
        ih]
    · rw [List.filter_cons_of_pos (by simp [hempty])]
      by_cases hreach : f.Reaches a.id
      · rw [List.filterMap_cons_none (by simp [h, hreach]),
          List.filter_cons_of_neg (by simp [hreach]), ih]
      · rw [List.filterMap_cons_some (by simp [h, hreach]; rfl), List.map_cons,
          List.filter_cons_of_pos (by simp [hempty, hreach]), List.map_cons, ih]
        rfl

theorem warnings_eq_of_validate {v : Verdict} (hv : f.validate = .ok v) :
    (f.Defines f.entry → v.warnings = f.filterWarnings ++ f.reachWarnings) ∧
      (¬ f.Defines f.entry → v.warnings = f.filterWarnings) := by
  obtain ⟨-, graph, unreachable, -, hgraph, hunreachable, -, hremarks⟩ := validate_eq_ok_iff.mp hv
  obtain ⟨-, hlinks⟩ := checkGraph_eq_ok_iff.mp ⟨graph, hgraph⟩
  have hwarnings : v.warnings = f.filterWarnings ++ unreachable.map Remark.message := by
    rw [Verdict.warnings, hremarks, List.map_append, filterWarnings]
  rw [hwarnings]
  rw [Flow.unreachable] at hunreachable
  obtain ⟨resolves, hresolves, hunreachable⟩ := bind_eq_ok_iff.mp hunreachable
  rw [← eq_true_of_entryResolves hresolves]
  cases resolves with
  | false =>
    cases hunreachable
    simp
  | true =>
    obtain ⟨ids, hids, hunreachable⟩ := bind_eq_ok_iff.mp hunreachable
    cases hunreachable
    rw [reachWarnings_eq (mem_reachableIds_iff (isKey_of_mem_nextIds_of_links hlinks) hids)]
    simp

/-- Of a flow that can be validated, the warnings about reach are exact if the entry names an
action, and there are none if it does not; but an empty entry counts as naming an action that has no
id, although it names none. -/
theorem unreachable_warnings {v : Verdict} (hv : f.validate = .ok v) :
    ((∃ a, f.get f.entry = .ok (some a)) → v.warnings = f.filterWarnings ++ f.reachWarnings) ∧
      ((¬ ∃ a, f.get f.entry = .ok (some a)) → (f.entry = .str "" → "" ∉ f.ids) →
        v.warnings = f.filterWarnings) ∧
      (f.entry = .str "" → "" ∈ f.ids →
        f.get f.entry = .ok none ∧ v.warnings = f.filterWarnings ++ f.reachWarnings) := by
  obtain ⟨hnamed, hunnamed⟩ := warnings_eq_of_validate hv
  rw [exists_get_iff]
  refine ⟨fun h => hnamed h.1, fun hget hids => hunnamed fun hdefines => ?_, fun hentry hid => ?_⟩
  · by_cases hempty : f.entry = .str ""
    · rw [hempty, defines_str_iff] at hdefines
      exact hids hempty hdefines
    · exact hget ⟨hdefines, hempty⟩
  · rw [hentry] at hnamed ⊢
    exact ⟨rfl, hnamed (defines_str_iff.mpr hid)⟩

theorem validate_crossing :
    crossing.validate = .ok
      ⟨[.triggerMissing, .idRepeated "d" 2, .idRepeated "c" 2,
          .linkUndefined "d" "next" (.str "x")],
        [.unreachable "d" (.str "a"), .unreachable "d" (.str "a")]⟩ := by
  cbv

/-- Nothing leads to `d`, which two actions have as their id. -/
theorem crossing_unreachable :
    ∃ v, crossing.validate = .ok v ∧
      v.warnings = crossing.filterWarnings ++ crossing.reachWarnings ∧
      crossing.reachWarnings =
        ["Action \"d\" is not reachable from entry action \"a\".",
          "Action \"d\" is not reachable from entry action \"a\"."] := by
  have hentry : ∃ a, crossing.get crossing.entry = .ok (some a) := ⟨_, rfl⟩
  have hwarnings := (unreachable_warnings validate_crossing).1 hentry
  exact ⟨_, validate_crossing, hwarnings, hwarnings.symm.trans (by decide)⟩

end MarketingFlow.Flow
