import MarketingFlow.Proofs.Json.Rearrangement

/-!
# Objects with given fields

A format lists the fields an object may have: which ones it needs and which values they take. An
object that follows the format comes back, up to the order of its members, from the values under the
names of the fields when those that are null are left out again.
-/

namespace MarketingFlow

namespace Json

def isText : Json → Bool
  | str _ => true
  | _ => false

def isPresent (v : Json) : Bool :=
  !v.isNull

/-- An array whose items all pass the check. -/
def isArrayOf (check : Json → Bool) : Json → Bool
  | arr vs => vs.all check
  | _ => false

theorem isText_iff {v : Json} : v.isText = true ↔ ∃ s, v = str s := by
  cases v <;> simp [isText]

theorem mem_items_iff {v w : Json} : w ∈ v.items ↔ ∃ vs, v = arr vs ∧ w ∈ vs := by
  cases v <;> simp [items]

theorem isArrayOf_iff {check : Json → Bool} {v : Json} :
    v.isArrayOf check = true ↔ ∃ vs, v = arr vs ∧ ∀ w ∈ vs, check w = true := by
  cases v <;> simp [isArrayOf]

/-- An array with at least one item. -/
def isNonemptyArray : Json → Bool
  | arr vs => !vs.isEmpty
  | _ => false

@[simp] theorem orElse_of_isText {v : Json} (h : v.isText = true) : v.orElse (.str "") = v := by
  obtain ⟨s, rfl⟩ := isText_iff.mp h
  by_cases hs : s = ""
  · rw [hs]
    rfl
  · rw [orElse, if_pos (given_str.mpr hs)]

/-- A list that is read and written back item by item, all of them as the format has them. -/
theorem rearranged_map {check : Json → Bool} {f : Json → Json}
    (h : ∀ v, check v = true → Rearranged (f v) v) {vs : List Json}
    (hvs : ∀ v ∈ vs, check v = true) : Rearranged (arr (vs.map f)) (arr vs) :=
  .arr (.map fun v hv => h v (hvs v hv))

/-- A value that is read unless it is null, and written back unless it was missing. -/
theorem rearranged_ofOption {α : Type} {check : Json → Bool} {read : Json → α} {write : α → Json}
    (h : ∀ v, check v = true → Rearranged (write (read v)) v) {v : Json}
    (hv : v = .null ∨ check v = true) :
    Rearranged (ofOption ((if v.isNull then none else some (read v)).map write)) v := by
  cases v with
  | null => exact .same _
  | _ =>
    rcases hv with hv | hv
    · cases hv
    · exact h _ hv

end Json

/-- One field of a record: whether it is needed and which values it takes. -/
structure Field where
  name : String
  required : Bool
  fits : Json → Bool

namespace Field

/-- A text that has to be there. -/
def text (name : String) : Field :=
  ⟨name, true, Json.isText⟩

/-- A value that has to be there. -/
def value (name : String) : Field :=
  ⟨name, true, Json.isPresent⟩

/-- A value that may be left out. -/
def extra (name : String) : Field :=
  ⟨name, false, Json.isPresent⟩

variable (field : String)

@[simp] theorem name_text : (text field).name = field := rfl

@[simp] theorem name_value : (value field).name = field := rfl

@[simp] theorem name_extra : (extra field).name = field := rfl

@[simp] theorem required_text : (text field).required = true := rfl

@[simp] theorem required_value : (value field).required = true := rfl

@[simp] theorem not_fits_null_text : (text field).fits .null = false := rfl

@[simp] theorem not_fits_null_value : (value field).fits .null = false := rfl

@[simp] theorem not_fits_null_extra : (extra field).fits .null = false := rfl

end Field

/-- The fields that a record may have, each listed once. -/
structure Format where
  fields : List Field
  nodup : (fields.map Field.name).Nodup

namespace Members

open Json

/-- An object that has no key twice and no other field than those of the format, each with a value
that fits, and all that the format needs. -/
def follows (ms : Members) (format : Format) : Bool :=
  decide ms.keys.Nodup &&
    (ms.all fun m => format.fields.any fun φ => φ.name == m.1 && φ.fits m.2) &&
    format.fields.all fun φ => !φ.required || ms.has φ.name

section

variable {ms : Members} {format : Format} (h : ms.follows format = true)

include h

theorem nodup_keys_of_follows : ms.keys.Nodup := by
  simp only [follows, Bool.and_eq_true, decide_eq_true_eq] at h
  exact h.1.1

theorem field_of_follows {m : String × Json} (hm : m ∈ ms) :
    ∃ φ ∈ format.fields, φ.name = m.1 ∧ φ.fits m.2 = true := by
  simp only [follows, Bool.and_eq_true, List.all_eq_true, List.any_eq_true, beq_iff_eq] at h
  exact h.1.2 m hm

variable {φ : Field} (hφ : φ ∈ format.fields)

include hφ

theorem has_of_follows (hrequired : φ.required = true) : ms.has φ.name = true := by
  simp only [follows, Bool.and_eq_true, List.all_eq_true] at h
  simpa [hrequired] using h.2 φ hφ

/-- What is found under the name of a field fits it. -/
theorem fits_of_find? {v : Json} (hv : ms.find? φ.name = some v) : φ.fits v = true := by
  obtain ⟨ψ, hψ, hname, hfits⟩ := field_of_follows h (mem_of_find? hv)
  have heq : ψ = φ := List.inj_on_of_nodup_map format.nodup hψ hφ hname
  rwa [← heq]

end

section

variable {ms : Members} {format : Format} (h : ms.follows format = true) {name : String}
  {check : Json → Bool}

include h

theorem fits_value (hfield : ⟨name, true, check⟩ ∈ format.fields) :
    check (ms.value name) = true := by
  obtain ⟨v, hv⟩ := Option.isSome_iff_exists.mp (has_of_follows h hfield rfl)
  rw [value_of_find? hv]
  exact fits_of_find? h hfield hv

/-- A field that is not needed is missing, or its value fits. -/
theorem fits_value_or_null (hfield : ⟨name, false, check⟩ ∈ format.fields) :
    ms.value name = .null ∨ check (ms.value name) = true := by
  cases hv : ms.find? name with
  | none =>
    left
    rw [value, hv, Option.getD_none]
  | some v =>
    right
    rw [value_of_find? hv]
    exact fits_of_find? h hfield hv

end

/-- An object comes back from its fields: some are written in any case, the others unless they are
null. -/
theorem rearranged_of_follows {ms : Members} {format : Format} (h : ms.follows format = true)
    (kept optional : Members)
    (hkeys : kept.keys ++ optional.keys = format.fields.map Field.name)
    (hkept : ∀ φ ∈ format.fields, φ.name ∈ kept.keys → φ.required = true)
    (hoptional : ∀ φ ∈ format.fields, φ.name ∈ optional.keys → φ.fits .null = false)
    (hvalues : ∀ m ∈ kept ++ optional, Rearranged m.2 (ms.value m.1)) :
    Rearranged (.obj (kept ++ optional.compact)) (.obj ms) := by
  have hsub : (kept ++ optional.compact).Sublist (kept ++ optional) :=
    (List.Sublist.refl _).append List.filter_sublist
  rw [← keys_append] at hkeys
  refine rearranged_of_keys ((hkeys ▸ format.nodup).sublist (hsub.map Prod.fst))
    (nodup_keys_of_follows h) (fun key => ?_) fun m hm => hvalues m (hsub.subset hm)
  rw [keys_append, List.mem_append]
  constructor
  · intro hwritten
    refine has_iff.mp ?_
    rcases hwritten with hkey | hkey
    · have hmem : key ∈ format.fields.map Field.name := by
        rw [← hkeys, keys_append]
        exact List.mem_append_left _ hkey
      obtain ⟨φ, hφ, rfl⟩ := List.mem_map.mp hmem
      exact has_of_follows h hφ (hkept φ hφ hkey)
    · obtain ⟨m, hm, rfl⟩ := List.mem_map.mp hkey
      obtain ⟨hm, hpresent⟩ := mem_compact_iff.mp hm
      have hvalue := hvalues m (List.mem_append_right _ hm)
      rw [has, Option.isSome_iff_ne_none]
      intro hnone
      rw [value, hnone, Option.getD_none] at hvalue
      exact hpresent (rearranged_null_iff.mp hvalue)
  · intro hkey
    obtain ⟨v, hv⟩ := Option.isSome_iff_exists.mp (has_iff.mpr hkey)
    obtain ⟨φ, hφ, rfl, hfits⟩ := field_of_follows h (mem_of_find? hv)
    have hname : φ.name ∈ (kept ++ optional).keys := by
      rw [hkeys]
      exact List.mem_map_of_mem hφ
    rw [keys_append] at hname
    refine (List.mem_append.mp hname).imp_right fun hname => ?_
    obtain ⟨m, hm, hmname⟩ := List.mem_map.mp hname
    refine List.mem_map.mpr ⟨m, mem_compact_iff.mpr ⟨hm, fun hnull => ?_⟩, hmname⟩
    have hvalue := hvalues m (List.mem_append_right _ hm)
    rw [hnull, hmname, value_of_find? hv] at hvalue
    rw [rearranged_of_null hvalue, hoptional φ hφ hname] at hfits
    cases hfits

theorem rearranged_compact_of_follows {ms : Members} {format : Format}
    (h : ms.follows format = true) (optional : Members)
    (hkeys : optional.keys = format.fields.map Field.name)
    (hoptional : ∀ φ ∈ format.fields, φ.fits .null = false)
    (hvalues : ∀ m ∈ optional, Rearranged m.2 (ms.value m.1)) :
    Rearranged (.obj optional.compact) (.obj ms) :=
  rearranged_of_follows h [] optional hkeys (fun _ _ hkey => by cases hkey)
    (fun φ hφ _ => hoptional φ hφ) hvalues

end Members

/-! ## Reading back what was written -/

namespace Json

theorem orElse_orElse (v d : Json) : (v.orElse d).orElse d = v.orElse d := by
  cases hv : v.given with
  | true => simp [orElse, hv]
  | false => simp [orElse, hv]

theorem unlessNull_of_ne {v : Json} (h : v ≠ .null) (d : Json) : v.unlessNull d = v := by
  cases v with
  | null => exact absurd rfl h
  | _ => rfl

variable {α : Type} {read : Json → α} {write : α → Json}

/-- A list whose items are read, written and read again. -/
theorem map_reread {change : α → α} (h : ∀ v, read (write (read v)) = change (read v))
    (vs : List Json) : ((vs.map read).map write).map read = (vs.map read).map change := by
  simp only [List.map_map]
  exact List.map_congr_left fun v _ => h v

theorem map_reread_same (h : ∀ v, read (write (read v)) = read v) (vs : List Json) :
    ((vs.map read).map write).map read = vs.map read := by
  have hmap := @map_reread _ read write id h vs
  rwa [List.map_id] at hmap

/-- A member that is read unless it is null, written and read again. -/
theorem ofOption_reread (h : ∀ v, read (write (read v)) = read v)
    (hpresent : ∀ v, v ≠ .null → write (read v) ≠ .null) {v w : Json}
    (hw : w = ofOption ((if v.isNull then none else some (read v)).map write)) :
    (if w.isNull then none else some (read w)) = if v.isNull then none else some (read v) := by
  subst hw
  by_cases hv : v = .null
  · subst hv
    rfl
  · have hwritten := mt isNull_iff.mp (hpresent v hv)
    simp [ofOption, mt isNull_iff.mp hv, hwritten, h]

end Json

namespace Members

theorem find?_append (ms ns : Members) (key : String) :
    (ms ++ ns).find? key = (ms.find? key).or (ns.find? key) :=
  List.lookup_append

theorem find?_compact {ms : Members} (h : ms.keys.Nodup) (key : String) :
    ms.compact.find? key = (ms.find? key).filter fun v => !v.isNull := by
  have hcompact : ms.compact.keys.Nodup := h.sublist (List.filter_sublist.map Prod.fst)
  refine Option.ext fun v => ?_
  rw [find?_eq_some_iff hcompact, mem_compact_iff, Option.filter_eq_some_iff, find?_eq_some_iff h,
    Bool.not_eq_true', ← Bool.not_eq_true, Json.isNull_iff]

variable {kept optional : Members} (h : (optional.map Prod.fst).Nodup)

include h

/-- Leaving out what is null changes no value. -/
theorem value_append_compact (key : String) :
    (kept ++ optional.compact).value key = (kept ++ optional).value key := by
  rw [value, value, find?_append, find?_append, find?_compact h]
  cases kept.find? key with
  | some v => rfl
  | none =>
    cases optional.find? key with
    | none => rfl
    | some v => cases v <;> rfl

theorem value_compact (key : String) : optional.compact.value key = optional.value key :=
  @value_append_compact [] optional h key

/-- Where a missing member stands for some value, that value is read in place of a null. -/
theorem getD_find?_append_compact {key : String} {v : Json} (hkept : kept.find? key = none)
    (hv : optional.find? key = some v) (d : Json) :
    ((kept ++ optional.compact).find? key).getD d = v.unlessNull d := by
  rw [find?_append, hkept, find?_compact h, hv]
  cases v <;> rfl

end Members

end MarketingFlow
