import MarketingFlow.Proofs.Http.Unforeseen
import MarketingFlow.Proofs.Json.Fields
import MarketingFlow.Proofs.Service.Accidents
import MarketingFlow.Service.ContentPass

/-!
# The documents of the service

What a document has to look like so that a build can read what it asked for. Each shape has a lemma
that says which reading of a document succeeds on it, and on no other.
-/

namespace MarketingFlow

open Outcome

namespace Json

def isObject : Json → Bool
  | obj _ => true
  | _ => false

/-- An object, or nothing. -/
def isRecord (v : Json) : Bool :=
  v.isObject || !v.given

/-- The member of an object under a key; nothing else has members. -/
def member (v : Json) (key : String) : Json :=
  match v with
  | obj ms => Members.value ms key
  | _ => null

theorem isRecord_of_isObject {v : Json} (h : v.isObject = true) : v.isRecord = true := by
  rw [isRecord, h, Bool.true_or]

theorem isObject_of_member {v : Json} (key : String) (h : v.member key ≠ .null) :
    v.isObject = true := by
  cases v with
  | obj ms => rfl
  | _ => exact absurd rfl h

theorem get_eq_ok_iff {v x : Json} {key : String} :
    v.get key = .ok x ↔ v.isObject = true ∧ v.member key = x := by
  cases v <;> simp [get, members, isObject, member]

@[simp] theorem isObject_orEmpty (v : Json) : v.orEmpty.isObject = v.isRecord := by
  rw [isRecord, orEmpty, orElse]
  cases v.given with
  | true => simp
  | false => simp [isObject]

@[simp] theorem member_orEmpty (v : Json) (key : String) : v.orEmpty.member key = v.member key := by
  rw [orEmpty, orElse]
  cases hg : v.given with
  | true => rfl
  | false =>
    cases v with
    | obj ms =>
      cases ms with
      | nil => rfl
      | cons m ms => cases hg
    | _ => rfl

theorem get_orEmpty_eq_ok_iff {v x : Json} {key : String} :
    v.orEmpty.get key = .ok x ↔ v.isRecord = true ∧ v.member key = x := by
  rw [get_eq_ok_iff, isObject_orEmpty, member_orEmpty]

theorem get_get_eq_ok_iff {v x : Json} {key key' : String} :
    (do (← v.get key).orEmpty.get key' : Except Failure Json) = .ok x ↔
      v.isObject = true ∧ (v.member key).isRecord = true ∧ (v.member key).member key' = x := by
  rw [bind_eq_ok_iff]
  constructor
  · rintro ⟨u, hu, hx⟩
    obtain ⟨hobject, rfl⟩ := get_eq_ok_iff.mp hu
    exact ⟨hobject, get_orEmpty_eq_ok_iff.mp hx⟩
  · rintro ⟨hobject, hx⟩
    exact ⟨_, get_eq_ok_iff.mpr ⟨hobject, rfl⟩, get_orEmpty_eq_ok_iff.mpr hx⟩

theorem unforeseen_get (v : Json) (key : String) : Unforeseen (v.get key) :=
  fun _ he => (Failure.accident_of_get he).1

theorem unforeseen_iterate (v : Json) : Unforeseen v.iterate := by
  rw [iterate.eq_def]
  split
  · exact .ok _
  · exact .ok _
  · exact .ok _
  · exact .error rfl

/-! ## One resource -/

/-- The document of one resource. -/
def holdsRecord (v : Json) : Bool :=
  v.isObject && (v.member "data").isRecord

theorem get_id_of_holdsRecord {v : Json} (h : v.holdsRecord = true) :
    ∃ id, (do (← v.get "data").orEmpty.get "id" : Except Failure Json) = .ok id := by
  obtain ⟨hobject, hdata⟩ := Bool.and_eq_true_iff.mp h
  exact ⟨_, get_get_eq_ok_iff.mpr ⟨hobject, hdata, rfl⟩⟩

/-- The document of a template, or of none. -/
def holdsTemplate (v : Json) : Bool :=
  let data := v.member "data"
  v.holdsRecord && (!(data.member "id").given || (data.member "attributes").isRecord)

/-- The document of a new flow. -/
def holdsFlow (v : Json) : Bool :=
  v.holdsRecord && ((v.member "data").member "attributes").isRecord

section

variable {document : Json} {id : String} (h : (document.member "data").member "id" = .str id)

include h

theorem isObject_data : (document.member "data").isObject = true := by
  apply isObject_of_member "id"
  rw [h]
  exact Json.noConfusion

theorem isObject_document : document.isObject = true := by
  refine isObject_of_member "data" fun hnull => ?_
  have hdata := isObject_data h
  rw [hnull] at hdata
  cases hdata

/-- With an id, only the attributes are left to say whether a flow's document is one. -/
theorem holdsFlow_iff :
    document.holdsFlow = true ↔ ((document.member "data").member "attributes").isRecord = true := by
  rw [holdsFlow, holdsRecord, isObject_document h, isRecord_of_isObject (isObject_data h)]
  simp

theorem createdId_eq : Creator.createdId document = .ok (.str id) := by
  apply get_get_eq_ok_iff.mpr
  exact ⟨isObject_document h, isRecord_of_isObject (isObject_data h), h⟩

end

/-! ## Messages and actions -/

def areMessages : Json → Bool
  | arr _ => true
  | str _ => true
  | _ => false

/-- The document of the messages of an action. -/
def holdsMessages (v : Json) : Bool :=
  v.isObject && (v.member "data").orNone.areMessages

/-- A resource whose type of action can be told. -/
def isActionResource (v : Json) : Bool :=
  let attributes := v.member "attributes"
  let type := attributes.member "action_type"
  v.isObject && attributes.isRecord && (!type.given || type.isText)

def areActions : Json → Bool
  | arr resources => resources.all isActionResource
  | _ => false

/-- The document of the actions of a flow. -/
def holdsActions (v : Json) : Bool :=
  v.isObject && (v.member "data").orNone.areActions

theorem size_of_areActions {v : Json} (h : v.areActions = true) : ∃ n, v.size = .ok n := by
  cases v with
  | arr xs => exact ⟨_, rfl⟩
  | _ => cases h

theorem singles_ne_nil {s : String} (h : s.toList ≠ []) : ∃ x xs, Text.singles s = x :: xs := by
  rw [Text.singles]
  generalize s.toList = cs at h
  fun_cases Text.codePoints cs with
  | case1 => exact absurd rfl h
  | case2 c => exact ⟨_, _, rfl⟩
  | case3 => exact ⟨_, _, rfl⟩
  | case4 => exact ⟨_, _, rfl⟩

/-- Among the keys of an object and the code points of a text there are no resources. -/
theorem iterate_of_size {v : Json} {n : Nat} (h : v.orNone.size = .ok n) :
    ∃ xs, v.orNone.iterate = .ok xs ∧
      (v.orNone.areActions = true ↔ xs.all isActionResource = true) := by
  rw [orNone, orElse] at *
  cases hg : v.given with
  | false => exact ⟨[], by simp [iterate, areActions]⟩
  | true =>
    simp only [hg, if_true] at h ⊢
    cases v with
    | arr xs => exact ⟨xs, rfl, Iff.rfl⟩
    | obj ms =>
      cases ms with
      | nil => cases hg
      | cons m ms => exact ⟨_, rfl, by simp [areActions, isActionResource, isObject]⟩
    | str s =>
      obtain ⟨x, xs, hs⟩ := singles_ne_nil (s := s) (by simpa [given] using hg)
      refine ⟨_, rfl, ?_⟩
      rw [hs]
      simp [areActions, isActionResource, isObject]
    | _ => cases h

theorem isText_orElse (v : Json) :
    (∃ s, v.orElse (.str "") = .str s) ↔ v.given = false ∨ v.isText = true := by
  rw [orElse]
  cases hg : v.given with
  | false => simp
  | true => cases v <;> simp [isText]

theorem unforeseen_isEmailResource (v : Json) : Unforeseen (isEmailResource v) := by
  unfold isEmailResource
  refine .bind (unforeseen_get _ _) fun _ => .bind (unforeseen_get _ _) fun type => ?_
  dsimp only
  split
  · exact .ok _
  · exact .error rfl

theorem isEmailResource_eq_ok_iff {v : Json} :
    (∃ b, isEmailResource v = .ok b) ↔ v.isActionResource = true := by
  unfold isEmailResource
  simp only [isActionResource, Bool.and_eq_true, Bool.or_eq_true, Bool.not_eq_true',
    ← isText_orElse]
  constructor
  · rintro ⟨b, h⟩
    obtain ⟨attributes, hattributes, h⟩ := bind_eq_ok_iff.mp h
    obtain ⟨type, htype, h⟩ := bind_eq_ok_iff.mp h
    obtain ⟨hobject, rfl⟩ := get_eq_ok_iff.mp hattributes
    obtain ⟨hrecord, rfl⟩ := get_orEmpty_eq_ok_iff.mp htype
    refine ⟨⟨hobject, hrecord⟩, ?_⟩
    split at h
    · exact ⟨_, ‹_›⟩
    · cases h
  · rintro ⟨⟨hobject, hrecord⟩, s, hs⟩
    have hattributes : v.get "attributes" = .ok (v.member "attributes") :=
      get_eq_ok_iff.mpr ⟨hobject, rfl⟩
    have htype : (v.member "attributes").orEmpty.get "action_type" =
        .ok ((v.member "attributes").member "action_type") :=
      get_orEmpty_eq_ok_iff.mpr ⟨hrecord, rfl⟩
    rw [hattributes, ok_bind, htype, ok_bind, hs]
    exact ⟨_, rfl⟩

section

variable {ordered : List Action} {resources : List Json} {type : String}

theorem unforeseen_correlate : Unforeseen (correlate ordered resources type isEmailResource) := by
  unfold correlate
  exact (Fails.filterM unforeseen_isEmailResource _).bind fun _ => .ok _

theorem correlate_eq_ok_iff :
    (∃ pairs, correlate ordered resources type isEmailResource = .ok pairs) ↔
      resources.all isActionResource = true := by
  unfold correlate
  rw [List.all_eq_true, ← forall₂_congr fun v _ => isEmailResource_eq_ok_iff (v := v),
    ← filterM_eq_ok_iff]
  constructor
  · rintro ⟨pairs, h⟩
    obtain ⟨remote, h, -⟩ := bind_eq_ok_iff.mp h
    exact ⟨remote, h⟩
  · rintro ⟨remote, h⟩
    exact ⟨_, bind_eq_ok_iff.mpr ⟨remote, h, rfl⟩⟩

theorem mem_of_correlate {pairs : List (Action × Json)}
    (h : correlate ordered resources type isEmailResource = .ok pairs) :
    ∀ p ∈ pairs, p.2 ∈ resources := by
  unfold correlate at h
  obtain ⟨remote, hremote, h⟩ := bind_eq_ok_iff.mp h
  cases h
  intro p hp
  exact mem_of_filterM hremote _ (List.of_mem_zip hp).2

end

end Json

/-! ## What a call asks for -/

/-- The document is of the kind that the call asks for. -/
def fitsCall (method path : String) (document : Json) : Bool :=
  if method = "PATCH" then true
  else if method = "POST" then
    if path = "/flows/" then document.holdsFlow else document.holdsRecord
  else if "/flows/".toList.isPrefixOf path.toList then document.holdsActions
  else if "/flow-actions/".toList.isPrefixOf path.toList then document.holdsMessages
  else document.holdsTemplate

theorem fitsCall_flowActions (id : String) (v : Json) :
    fitsCall "GET" ("/flows/" ++ id ++ "/flow-actions/") v = v.holdsActions := by
  have hprefix :
      "/flows/".toList.isPrefixOf ("/flows/" ++ id ++ "/flow-actions/").toList = true := by
    simp only [String.toList_append]
    rfl
  rw [fitsCall, if_neg (by decide), if_neg (by decide), if_pos hprefix]

theorem fitsCall_flowActionMessages (id : String) (v : Json) :
    fitsCall "GET" ("/flow-actions/" ++ id ++ "/flow-messages/") v = v.holdsMessages := by
  have hflows : ¬ "/flows/".toList.isPrefixOf
      ("/flow-actions/" ++ id ++ "/flow-messages/").toList = true := by
    simp only [String.toList_append]
    exact Bool.false_ne_true
  have hprefix : "/flow-actions/".toList.isPrefixOf
      ("/flow-actions/" ++ id ++ "/flow-messages/").toList = true := by
    simp only [String.toList_append]
    rfl
  rw [fitsCall, if_neg (by decide), if_neg (by decide), if_neg hflows, if_pos hprefix]

theorem fitsCall_template (id : String) (v : Json) :
    fitsCall "GET" ("/flow-messages/" ++ id ++ "/template/") v = v.holdsTemplate := by
  have hflows : ¬ "/flows/".toList.isPrefixOf
      ("/flow-messages/" ++ id ++ "/template/").toList = true := by
    simp only [String.toList_append]
    exact Bool.false_ne_true
  have hactions : ¬ "/flow-actions/".toList.isPrefixOf
      ("/flow-messages/" ++ id ++ "/template/").toList = true := by
    simp only [String.toList_append]
    exact Bool.false_ne_true
  rw [fitsCall, if_neg (by decide), if_neg (by decide), if_neg hflows, if_neg hactions]

end MarketingFlow
