import Mathlib.Data.List.Nodup
import Mathlib.Data.List.Perm.Basic
import MarketingFlow.Json.Basic

/-!
# Documents up to the order of members

Two documents are rearrangements of each other when they differ in nothing but the order in which
their objects list their members, at any depth. For objects without repeated keys it is enough to
compare the values key by key.
-/

namespace MarketingFlow

namespace Json

mutual

/-- The first document becomes the second when members of objects are listed in another order. -/
inductive Rearranged : Json → Json → Prop
  | same (v : Json) : Rearranged v v
  | arr {vs ws : List Json} (h : RearrangedItems vs ws) : Rearranged (arr vs) (arr ws)
  | obj {ms ls ns : Members} (h : RearrangedMembers ms ls) (hperm : ls.Perm ns) :
    Rearranged (obj ms) (obj ns)

/-- Item by item. -/
inductive RearrangedItems : List Json → List Json → Prop
  | nil : RearrangedItems [] []
  | cons {v w : Json} {vs ws : List Json} (h : Rearranged v w) (hrest : RearrangedItems vs ws) :
    RearrangedItems (v :: vs) (w :: ws)

/-- Member by member, under the same keys. -/
inductive RearrangedMembers : Members → Members → Prop
  | nil : RearrangedMembers [] []
  | cons {v w : Json} {ms ns : Members} (key : String) (h : Rearranged v w)
    (hrest : RearrangedMembers ms ns) : RearrangedMembers ((key, v) :: ms) ((key, w) :: ns)

end

attribute [simp] Rearranged.same

theorem rearranged_null_iff {v : Json} : Rearranged v .null ↔ v = .null := by
  constructor
  · rintro ⟨⟩
    rfl
  · rintro rfl
    exact .same _

theorem rearranged_of_null {w : Json} (h : Rearranged .null w) : w = .null := by
  cases h
  rfl

/-- A list that is read and written back item by item. -/
theorem RearrangedItems.map {f : Json → Json} {vs : List Json}
    (h : ∀ v ∈ vs, Rearranged (f v) v) : RearrangedItems (vs.map f) vs := by
  induction vs with
  | nil => exact .nil
  | cons v vs ih =>
    obtain ⟨hv, hvs⟩ := List.forall_mem_cons.mp h
    exact .cons hv (ih hvs)

theorem RearrangedItems.refl (vs : List Json) : RearrangedItems vs vs := by
  induction vs with
  | nil => exact .nil
  | cons v vs ih => exact .cons (.same v) ih

theorem rearranged_arr_iff {vs ws : List Json} :
    Rearranged (arr vs) (arr ws) ↔ RearrangedItems vs ws := by
  constructor
  · rintro (_ | h)
    · exact .refl vs
    · exact h
  · exact .arr

/-- Two lists that are read off the same items. -/
theorem RearrangedItems.of_map {α : Type} {f g : α → Json} {xs : List α}
    (h : RearrangedItems (xs.map f) (xs.map g)) : ∀ x ∈ xs, Rearranged (f x) (g x) := by
  induction xs with
  | nil => exact fun x hx => by cases hx
  | cons x xs ih =>
    obtain _ | ⟨hx, hxs⟩ := h
    exact List.forall_mem_cons.mpr ⟨hx, ih hxs⟩

theorem RearrangedMembers.exists_mem {ms ns : Members} (h : RearrangedMembers ms ns)
    {key : String} {v : Json} (hm : (key, v) ∈ ms) : ∃ w, (key, w) ∈ ns ∧ Rearranged v w := by
  induction ms generalizing ns with
  | nil => cases hm
  | cons m ms ih =>
    obtain _ | ⟨key, hw, hrest⟩ := h
    rcases List.mem_cons.mp hm with heq | hm
    · cases heq
      exact ⟨_, .head _, hw⟩
    · obtain ⟨w, hmem, hw⟩ := ih hrest hm
      exact ⟨w, .tail _ hmem, hw⟩

end Json

namespace Members

open Json

def keys (ms : Members) : List String :=
  ms.map Prod.fst

@[simp] theorem keys_nil : keys [] = [] := rfl

@[simp] theorem keys_cons (m : String × Json) (ms : Members) :
    keys (m :: ms) = m.1 :: keys ms := rfl

@[simp] theorem keys_append (ms ns : Members) : keys (ms ++ ns) = keys ms ++ keys ns :=
  List.map_append

theorem set_of_notMem {ms : Members} {key : String} (h : key ∉ ms.keys) (v : Json) :
    ms.set key v = ms ++ [(key, v)] := by
  induction ms with
  | nil => rfl
  | cons m ms ih =>
    obtain ⟨hne, hrest⟩ := not_or.mp (List.mem_cons.not.mp h)
    rw [set, if_neg (Ne.symm hne), ih hrest]
    rfl

theorem find?_eq_none_iff {ms : Members} {key : String} : ms.find? key = none ↔ key ∉ ms.keys := by
  rw [find?, keys, List.lookup_eq_none_iff, List.mem_map]
  refine ⟨?_, ?_⟩
  · rintro h ⟨m, hm, rfl⟩
    simpa using h m hm
  · intro h m hm
    simpa using fun heq => h ⟨m, hm, Eq.symm heq⟩

theorem has_iff {ms : Members} {key : String} : ms.has key = true ↔ key ∈ ms.keys := by
  rw [has, Option.isSome_iff_ne_none, ne_eq, find?_eq_none_iff, not_not]

theorem mem_of_find? {ms : Members} {key : String} {v : Json} (h : ms.find? key = some v) :
    (key, v) ∈ ms := by
  obtain ⟨before, after, rfl, -⟩ := List.lookup_eq_some_iff.mp h
  simp

/-- Without repeated keys, the members are what is found under the keys. -/
theorem find?_eq_some_iff {ms : Members} (hms : ms.keys.Nodup) {key : String} {v : Json} :
    ms.find? key = some v ↔ (key, v) ∈ ms := by
  refine ⟨mem_of_find?, fun h => ?_⟩
  induction ms with
  | nil => cases h
  | cons m ms ih =>
    obtain ⟨k, w⟩ := m
    obtain ⟨hk, hms⟩ := List.nodup_cons.mp hms
    rcases List.mem_cons.mp h with hhere | hlater
    · cases hhere
      simp [find?]
    · have hne : key ≠ k := fun heq => hk (heq ▸ List.mem_map.mpr ⟨_, hlater, rfl⟩)
      rw [find?, List.lookup_cons, beq_false_of_ne hne]
      exact ih hms hlater

theorem value_of_find? {ms : Members} {key : String} {v : Json} (h : ms.find? key = some v) :
    ms.value key = v := by
  rw [value, h, Option.getD_some]

theorem find?_of_value {ms : Members} {key : String} {v : Json} (h : ms.value key = v)
    (hv : v ≠ .null) : ms.find? key = some v := by
  cases hfind : ms.find? key with
  | none =>
    rw [value, hfind] at h
    exact absurd h.symm hv
  | some w => rw [← value_of_find? hfind, h]

theorem getD_find?_of_has {ms : Members} {key : String} (h : ms.has key = true) (d : Json) :
    (ms.find? key).getD d = ms.value key := by
  obtain ⟨v, hv⟩ := Option.isSome_iff_exists.mp h
  rw [value_of_find? hv, hv, Option.getD_some]

/-- What an object has under a key, its rearrangement has there as well. -/
theorem rearranged_value {ms ns : Members} (h : Rearranged (.obj ms) (.obj ns))
    (hns : ns.keys.Nodup) {key : String} {v : Json} (hv : (key, v) ∈ ms) :
    Rearranged v (ns.value key) := by
  obtain _ | _ | ⟨h, hperm⟩ := h
  · rw [value_of_find? ((find?_eq_some_iff hns).mpr hv)]
    exact .same v
  · obtain ⟨w, hw, hrearranged⟩ := h.exists_mem hv
    rwa [value_of_find? ((find?_eq_some_iff hns).mpr (hperm.mem_iff.mp hw))]

/-- The members of one object under the keys of another. -/
theorem rearranged_along {written ms : Members}
    (hvalues : ∀ m ∈ written, Rearranged m.2 (ms.value m.1)) :
    RearrangedMembers written (written.keys.map fun key => (key, ms.value key)) := by
  induction written with
  | nil => exact .nil
  | cons m written ih =>
    obtain ⟨hm, hwritten⟩ := List.forall_mem_cons.mp hvalues
    exact .cons m.1 hm (ih hwritten)

/-- Two objects without repeated keys are compared key by key. -/
theorem rearranged_of_keys {written ms : Members} (hwritten : written.keys.Nodup)
    (hms : ms.keys.Nodup) (hkeys : ∀ key, key ∈ written.keys ↔ key ∈ ms.keys)
    (hvalues : ∀ m ∈ written, Rearranged m.2 (ms.value m.1)) :
    Rearranged (.obj written) (.obj ms) := by
  refine .obj (rearranged_along hvalues) ?_
  have hnodup : (written.keys.map fun key => (key, ms.value key)).Nodup :=
    hwritten.map fun _ _ h => (Prod.mk.inj h).1
  refine (List.perm_ext_iff_of_nodup hnodup (.of_map Prod.fst hms)).mpr fun m => ?_
  constructor
  · intro hm
    obtain ⟨key, hkey, rfl⟩ := List.mem_map.mp hm
    obtain ⟨v, hv⟩ := Option.isSome_iff_exists.mp (has_iff.mpr ((hkeys key).mp hkey))
    rw [value_of_find? hv]
    exact mem_of_find? hv
  · intro hm
    have hvalue : ms.value m.1 = m.2 := value_of_find? ((find?_eq_some_iff hms).mpr hm)
    exact List.mem_map.mpr ⟨m.1, (hkeys _).mpr (List.mem_map_of_mem hm), by rw [hvalue]⟩

end Members

end MarketingFlow
