import MarketingFlow.Flow.Basic
import MarketingFlow.Proofs.Json.Fields
import MarketingFlow.Proofs.Outcome

/-!
# Reading and writing flows

A flow document in canonical form says nothing that its flow does not keep: no field is null, none
has the value that a missing one stands for, and none is unknown. Reading such a document and
writing the flow gives it back, up to the order of members.
-/

namespace MarketingFlow

open Json Members Outcome

theorem typeText_of_value {ms : Members} {type : String} (h : ms.value "type" = .str type) :
    ms.typeText = type := by
  rw [typeText, find?_of_value h Json.noConfusion]
  rfl

/-! ## Filters -/

namespace Condition

/-- An object with a type and any other members, or anything else that is not null. -/
def isCanonical : Json → Bool
  | .obj ms => decide (Members.keys ms).Nodup && (Members.value ms "type").isText
  | v => v.isPresent

theorem rearranged_toJson {v : Json} (h : isCanonical v = true) :
    Rearranged (ofJson v).toJson v := by
  cases v with
  | obj ms =>
    simp only [isCanonical, Bool.and_eq_true, decide_eq_true_eq] at h
    obtain ⟨hnodup, htext⟩ := h
    obtain ⟨type, htype⟩ := isText_iff.mp htext
    have hhas : "type" ∈ Members.keys ms := has_iff.mp (by simp [has, find?_of_value htype])
    rw [ofJson, ofMembers, typeText_of_value htype, toJson]
    refine rearranged_of_keys ?_ hnodup (fun key => ?_) ?_
    · refine List.nodup_cons.mpr ⟨by simp, ?_⟩
      exact hnodup.sublist (List.filter_sublist.map Prod.fst)
    · by_cases hkey : key = "type"
      · simp [hkey, hhas]
      · simp [keys, hkey]
    · refine List.forall_mem_cons.mpr ⟨by simp [htype], fun m hm => ?_⟩
      rw [value_of_find? ((find?_eq_some_iff hnodup).mpr (List.mem_of_mem_filter hm))]
      exact .same _
  | null => cases h
  | _ => exact .same _

end Condition

namespace ConditionGroup

def format : Format :=
  ⟨[⟨"conditions", true, isArrayOf Condition.isCanonical⟩], by simp⟩

/-- An object with its conditions, or anything else that is not null. -/
def isCanonical : Json → Bool
  | .obj ms => Members.follows ms format
  | v => v.isPresent

theorem rearranged_toJson {v : Json} (h : isCanonical v = true) :
    Rearranged (ofJson v).toJson v := by
  cases v with
  | obj ms =>
    obtain ⟨cs, hcs, hall⟩ := isArrayOf_iff.mp (fits_value h (.head _))
    refine rearranged_of_follows h [("conditions", _)] [] (by simp [format]) (by simp [format])
      (by simp) ?_
    simp only [List.append_nil, List.forall_mem_singleton, hcs, items, List.map_map]
    exact rearranged_map (fun _ => Condition.rearranged_toJson) hall
  | null => cases h
  | _ => exact .same _

end ConditionGroup

namespace ConditionFilter

def format : Format :=
  ⟨[⟨"condition_groups", false, isArrayOf ConditionGroup.isCanonical⟩], by simp⟩

/-- An object with its groups, or an empty one. -/
def isCanonical : Json → Bool
  | .obj ms => Members.follows ms format
  | _ => false

theorem rearranged_toJson {v : Json} (h : isCanonical v = true) :
    Rearranged (ofJson v).toJson v := by
  cases v with
  | obj ms =>
    obtain ⟨groups, hwritten, hgroups⟩ : ∃ groups,
        (ofMembers ms).toMembers = Members.compact [("condition_groups", groups)] ∧
          Rearranged groups (Members.value ms "condition_groups") := by
      rw [ofMembers, toMembers]
      rcases fits_value_or_null h (.head _) with hnull | hgroups
      · rw [hnull]
        exact ⟨.null, rfl, .same _⟩
      · obtain ⟨gs, hgs, hall⟩ := isArrayOf_iff.mp hgroups
        rw [hgs]
        refine ⟨.arr ((gs.map ConditionGroup.ofJson).map ConditionGroup.toJson), rfl, ?_⟩
        rw [List.map_map]
        exact rearranged_map (fun _ => ConditionGroup.rearranged_toJson) hall
    rw [ofJson, toJson, hwritten]
    refine rearranged_compact_of_follows h _ (by simp [format]) (by simp [format, isArrayOf]) ?_
    exact List.forall_mem_singleton.mpr hgroups
  | _ => cases h

theorem rearranged_ofMember {v : Json} (h : v = .null ∨ isCanonical v = true) :
    Rearranged (Json.ofOption ((ofMember v).map toJson)) v :=
  rearranged_ofOption (fun _ => rearranged_toJson) h

end ConditionFilter

/-! ## Triggers -/

namespace Trigger

/-- What a trigger of each type may say besides its type. -/
def format (type : String) : Format :=
  match type with
  | "metric" =>
    ⟨[.text "type", .text "metric_name", .extra "metric_id",
      ⟨"trigger_filter", false, ConditionFilter.isCanonical⟩], by simp⟩
  | "list" =>
    ⟨[.text "type", .text "list_name", .extra "list_id"], by simp⟩
  | "date-property" =>
    ⟨[.text "type", .text "property_name", .extra "offset_days"], by simp⟩
  | _ => ⟨[.text "type"], by simp⟩

/-- Nothing, or an object of its type's format. -/
def isCanonical : Json → Bool
  | .obj ms =>
    match Members.value ms "type" with
    | .str type => Members.follows ms (format type)
    | _ => false
  | v => v.isNull

theorem rearranged_toMembers {ms : Members} {type : String} (htype : ms.value "type" = .str type)
    (h : ms.follows (format type) = true) :
    Rearranged (.obj (ofMembers ms).toMembers) (.obj ms) := by
  rw [ofMembers, typeText_of_value htype]
  fun_cases format type with
  | case1 =>
    have hname : (ms.value "metric_name").isText = true := fits_value h (.tail _ (.head _))
    have hfilter := fits_value_or_null h (.tail _ (.tail _ (.tail _ (.head _))))
    refine rearranged_compact_of_follows h _ rfl
      (by simp [format, ConditionFilter.isCanonical]) ?_
    simp [htype, hname, ConditionFilter.rearranged_ofMember hfilter]
  | case2 =>
    have hname : (ms.value "list_name").isText = true := fits_value h (.tail _ (.head _))
    refine rearranged_compact_of_follows h _ rfl
      (by simp [format]) ?_
    simp [htype, hname]
  | case3 =>
    have hname : (ms.value "property_name").isText = true := fits_value h (.tail _ (.head _))
    refine rearranged_compact_of_follows h _ rfl
      (by simp [format]) ?_
    simp [htype, hname]
  | case4 _ hmetric hlist hdate =>
    simp only [format] at h
    split
    · exact (hmetric rfl).elim
    · exact (hlist rfl).elim
    · exact (hdate rfl).elim
    · refine rearranged_of_follows h [("type", _)] [] rfl (by simp) (by simp) ?_
      simp [htype]

/-- A trigger that may be null, and is written back in any case. -/
theorem rearranged_ofOption {v : Json} (h : isCanonical v = true) :
    Rearranged (Json.ofOption ((match v with
      | .obj t => some (ofMembers t)
      | _ => none).map toJson)) v := by
  cases v with
  | obj ms =>
    rw [isCanonical] at h
    split at h
    next type htype => exact rearranged_toMembers htype h
    next => cases h
  | null => exact .same _
  | _ => cases h

end Trigger

/-! ## Actions -/

namespace Action

/-- The fields of a type of action besides the id and the type. -/
def ownFields (type : String) : List Field :=
  match type with
  | "time-delay" => [.value "delay_value", .value "delay_unit", .extra "next"]
  | "send-email" =>
    .text "name" ::
      ["smart_sending", "utm_tracking", "subject_line", "preview_text", "content", "next"].map
        Field.extra
  | "send-sms" => .text "name" :: ["smart_sending", "utm_tracking", "body", "next"].map Field.extra
  | "conditional-split" =>
    [.text "condition_type", .text "condition_label", .extra "condition_config",
      .extra "next_if_true", .extra "next_if_false"]
  | "ab-split" =>
    ["variant_a_label", "variant_b_label", "split_percentage", "next_variant_a",
      "next_variant_b"].map Field.extra
  | _ => []

def format (type : String) : Format where
  fields := .text "id" :: .text "type" :: ownFields type
  nodup := by
    fun_cases ownFields type <;> simp

/-- An object of its type's format, or anything else that is not null. -/
def isCanonical : Json → Bool
  | .obj ms =>
    match Members.value ms "type" with
    | .str type => Members.follows ms (format type)
    | _ => false
  | v => v.isPresent

theorem not_fits_null_ownFields {type : String} {φ : Field} (hφ : φ ∈ ownFields type) :
    φ.fits .null = false := by
  revert φ
  fun_cases ownFields type <;> simp

section

variable {ms : Members} {id type : String} (hid : ms.value "id" = .str id)
  (htype : ms.value "type" = .str type) (h : ms.follows (format type) = true)

include hid htype h

/-- An action comes back from its id, its type and the fields of its type. -/
theorem rearranged_of_own (own : Members) (hkeys : own.keys = (ownFields type).map Field.name)
    (hvalues : ∀ m ∈ own, Rearranged m.2 (ms.value m.1)) :
    Rearranged (.obj ([("id", .str id), ("type", .str type)] ++ own.compact)) (.obj ms) := by
  have hnodup := (format type).nodup
  simp only [format, List.map_cons, List.nodup_cons, Field.name_text] at hnodup
  apply rearranged_of_follows h
  · rw [hkeys]
    rfl
  · intro φ hφ hkept
    have hname : φ.name = "id" ∨ φ.name = "type" := by simpa using hkept
    rcases hname with hname | hname
    · rw [List.inj_on_of_nodup_map (format type).nodup hφ (.head _) hname]
      rfl
    · rw [List.inj_on_of_nodup_map (format type).nodup hφ (.tail _ (.head _)) hname]
      rfl
  · intro φ hφ hown
    rcases List.mem_cons.mp hφ with rfl | hφ
    · rfl
    · rcases List.mem_cons.mp hφ with rfl | hφ
      · rfl
      · exact not_fits_null_ownFields hφ
  · simpa [hid, htype] using hvalues

theorem rearranged_ofMembers : Rearranged (ofMembers ms).toJson (.obj ms) := by
  have hread : ofMembers ms = ⟨id, workOfMembers type ms⟩ := by
    rw [ofMembers, typeText_of_value htype, hid, orElse_of_isText rfl, text_str]
  rw [hread, workOfMembers.eq_def]
  split
  next =>
    have hvalue : ms.has "delay_value" = true :=
      has_of_follows h (.tail _ (.tail _ (.head _))) rfl
    have hunit : ms.has "delay_unit" = true :=
      has_of_follows h (.tail _ (.tail _ (.tail _ (.head _)))) rfl
    refine rearranged_of_own hid htype h _ rfl ?_
    simp [getD_find?_of_has hvalue, getD_find?_of_has hunit]
  next =>
    have hname : (ms.value "name").isText = true := fits_value h (.tail _ (.tail _ (.head _)))
    refine rearranged_of_own hid htype h _ rfl ?_
    simp [Message.head, Message.ofMembers, hname]
  next =>
    have hname : (ms.value "name").isText = true := fits_value h (.tail _ (.tail _ (.head _)))
    refine rearranged_of_own hid htype h _ rfl ?_
    simp [Message.head, Message.ofMembers, hname]
  next =>
    have hcondition : (ms.value "condition_type").isText = true :=
      fits_value h (.tail _ (.tail _ (.head _)))
    have hlabel : (ms.value "condition_label").isText = true :=
      fits_value h (.tail _ (.tail _ (.tail _ (.head _))))
    refine rearranged_of_own hid htype h _ rfl ?_
    simp [hcondition, hlabel]
  next =>
    refine rearranged_of_own hid htype h _ rfl ?_
    simp
  next hdelay hemail hsms hsplit hvariants =>
    refine rearranged_of_own hid htype h [] ?_ (by simp)
    rw [ownFields.eq_6 _ hdelay hemail hsms hsplit hvariants]
    rfl

end

theorem rearranged_toJson {v : Json} (h : isCanonical v = true) :
    Rearranged (ofJson v).toJson v := by
  cases v with
  | obj ms =>
    rw [isCanonical] at h
    split at h
    next type htype =>
      have hid := fits_value h (.head _)
      obtain ⟨id, hid⟩ := isText_iff.mp hid
      exact rearranged_ofMembers hid htype h
    next => cases h
  | null => cases h
  | _ => exact .same _

end Action

/-! ## Settings -/

namespace Reentry

def format : Format :=
  ⟨[.text "mode", .extra "value", .extra "unit"], by simp⟩

/-- An object with its mode, or anything else that is not null. -/
def isCanonical : Json → Bool
  | .obj ms => Members.follows ms format
  | v => v.isPresent

theorem rearranged_toJson {v : Json} (h : isCanonical v = true) :
    Rearranged (ofJson v).toJson v := by
  cases v with
  | obj ms =>
    obtain ⟨mode, hmode⟩ := isText_iff.mp (fits_value h (.head _))
    rw [ofJson, ofMembers, find?_of_value hmode Json.noConfusion]
    refine rearranged_compact_of_follows h _ rfl (by simp [format]) ?_
    simp [hmode]
  | null => cases h
  | _ => exact .same _

end Reentry

namespace Settings

def format : Format :=
  ⟨[.extra "smart_sending", .extra "utm_tracking", ⟨"reentry", false, Reentry.isCanonical⟩],
    by simp⟩

def isCanonical : Json → Bool
  | .obj ms => Members.follows ms format
  | _ => false

theorem rearranged_toJson {ms : Members} (h : ms.follows format = true) :
    Rearranged (ofMembers ms).toJson (.obj ms) := by
  have hreentry := rearranged_ofOption (fun _ => Reentry.rearranged_toJson)
    (fits_value_or_null h (.tail _ (.tail _ (.head _))))
  refine rearranged_compact_of_follows h _ rfl
    (by simp [format, Reentry.isCanonical, isPresent]) ?_
  simpa [ofMembers] using hreentry

end Settings

/-! ## Flows -/

namespace Flow

def format : Format :=
  ⟨[.text "name", ⟨"trigger", true, Trigger.isCanonical⟩,
    ⟨"actions", true, isArrayOf Action.isCanonical⟩, .text "entry_action_id",
    ⟨"profile_filter", false, ConditionFilter.isCanonical⟩,
    ⟨"settings", false, Settings.isCanonical⟩, ⟨"tags", false, isNonemptyArray⟩], by simp⟩

/-- A flow document that its flow can give back. -/
def isCanonical : Json → Bool
  | .obj ms => Members.follows ms format
  | _ => false

theorem toJson_eq (f : Flow) :
    f.toJson = .obj (
      [("name", f.name), ("trigger", Json.ofOption (f.trigger.map Trigger.toJson)),
        ("actions", .arr (f.actions.map Action.toJson)), ("entry_action_id", f.entry)] ++
      Members.compact
        [("profile_filter", Json.ofOption (f.profileFilter.map ConditionFilter.toJson)),
          ("settings", Json.ofOption (f.settings.map Settings.toJson)),
          ("tags", if f.tags.isEmpty then .null else .arr f.tags)]) := by
  rw [toJson]
  cases f.profileFilter <;> cases f.settings <;> cases f.tags <;> rfl

theorem tags_of_fits {v : Json} (h : v = .null ∨ isNonemptyArray v = true) :
    ∃ tags, (v.orElse (.arr [])).iterate = .ok tags ∧
      (if tags.isEmpty then .null else .arr tags) = v := by
  rcases h with rfl | h
  · exact ⟨[], rfl, rfl⟩
  · cases v with
    | arr vs =>
      cases vs with
      | nil => cases h
      | cons v vs => exact ⟨v :: vs, rfl, rfl⟩
    | _ => cases h

theorem rearranged_settings {v : Json} (h : v = .null ∨ Settings.isCanonical v = true) :
    Rearranged (Json.ofOption ((match v with
      | .obj s => some (Settings.ofMembers s)
      | _ => none).map Settings.toJson)) v := by
  rcases h with rfl | h
  · exact .same _
  · cases v with
    | obj ms => exact Settings.rearranged_toJson h
    | _ => cases h

/-- Every canonical document is read, and the flow written back is the document. -/
theorem round_trip {v : Json} (h : isCanonical v = true) :
    ∃ f, ofJson v = .ok f ∧ Rearranged f.toJson v := by
  cases v with
  | obj ms =>
    have hname : (Members.value ms "name").isText = true :=
      fits_value h (by simp [format, Field.text])
    have htrigger : Trigger.isCanonical (Members.value ms "trigger") = true :=
      fits_value h (by simp [format])
    have hactions : isArrayOf Action.isCanonical (Members.value ms "actions") = true :=
      fits_value h (by simp [format])
    have hentry : (Members.value ms "entry_action_id").isText = true :=
      fits_value h (by simp [format, Field.text])
    have hfilter : Members.value ms "profile_filter" = .null ∨
        ConditionFilter.isCanonical (Members.value ms "profile_filter") = true :=
      fits_value_or_null h (by simp [format])
    have hsettings : Members.value ms "settings" = .null ∨
        Settings.isCanonical (Members.value ms "settings") = true :=
      fits_value_or_null h (by simp [format])
    have htags : Members.value ms "tags" = .null ∨
        isNonemptyArray (Members.value ms "tags") = true :=
      fits_value_or_null h (by simp [format])
    obtain ⟨actions, hactions, hall⟩ := isArrayOf_iff.mp hactions
    obtain ⟨tags, hread, hwritten⟩ := tags_of_fits htags
    refine ⟨_, bind_eq_ok_iff.mpr ⟨ms, rfl, bind_eq_ok_iff.mpr ⟨tags, hread, rfl⟩⟩, ?_⟩
    rw [toJson_eq]
    refine rearranged_of_follows h _ _ rfl (by simp [format])
      (by simp [format, ConditionFilter.isCanonical, Settings.isCanonical, isNonemptyArray]) ?_
    simp only [List.cons_append, List.nil_append, List.forall_mem_cons, hname, hentry,
      orElse_of_isText, hactions, items, List.map_map, hwritten]
    exact ⟨.same _, Trigger.rearranged_ofOption htrigger,
      rearranged_map (fun _ => Action.rearranged_toJson) hall, .same _,
      ConditionFilter.rearranged_ofMember hfilter, rearranged_settings hsettings, .same _,
      fun m hm => by cases hm⟩
  | _ => cases h

/-- A document with members out of order, a raw action, raw conditions, filters, settings and
tags. -/
def reminder : Json :=
  .obj [("actions", .arr
      [.obj [("type", .str "conditional-split"), ("id", .str "split"),
          ("next_if_true", .str "wait"), ("condition_label", .str "VIP?"),
          ("condition_type", .str "profile-property")],
        .obj [("delay_unit", .str "days"), ("delay_value", .int 3), ("type", .str "time-delay"),
          ("id", .str "wait"), ("next", .str "text")],
        .obj [("id", .str "text"), ("type", .str "send-sms"), ("name", .str ""),
          ("body", .str "Come back"), ("smart_sending", .bool false)],
        .int 7]),
    ("name", .str "Reminder"), ("entry_action_id", .str "split"), ("tags", .arr [.str "vip"]),
    ("trigger", .obj [("metric_name", .str "Viewed Product"), ("type", .str "metric"),
      ("trigger_filter", .obj [("condition_groups", .arr [.obj [("conditions", .arr
        [.obj [("value", .null), ("type", .str "location")], .str "raw"])], .bool false])])]),
    ("profile_filter", .obj []),
    ("settings", .obj [("reentry", .obj [("value", .int 30), ("mode", .str "time-based")]),
      ("utm_tracking", .bool true)])]

theorem reminder_round_trip :
    isCanonical reminder = true ∧ ∃ f, ofJson reminder = .ok f ∧ Rearranged f.toJson reminder := by
  have h : isCanonical reminder = true := by decide +kernel
  exact ⟨h, round_trip h⟩

end Flow

end MarketingFlow
