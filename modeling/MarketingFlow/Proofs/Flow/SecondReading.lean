import MarketingFlow.Proofs.Flow.RoundTrip

/-!
# Reading a written flow

Whatever document a flow was read from, the document that is written for it is read again, and the
second flow is the first one except for delays whose value or unit was null in the document: a null
is not written back, and what is missing stands for zero days. A third reading changes nothing more.
-/

namespace MarketingFlow

open Json Members Outcome

/-! ## Filters -/

theorem Condition.ofJson_toJson (v : Json) : ofJson (ofJson v).toJson = ofJson v := by
  cases v with
  | obj ms =>
    have htype : ∀ (type : String) (params : Members),
        Members.typeText (("type", .str type) :: params) = type :=
      fun _ _ => typeText_of_value rfl
    simp [ofJson, toJson, ofMembers, htype]
  | null => rfl
  | _ => rfl

theorem ConditionGroup.ofJson_toJson (v : Json) : ofJson (ofJson v).toJson = ofJson v := by
  cases v with
  | obj ms => exact congrArg conditions (map_reread_same Condition.ofJson_toJson _)
  | null => rfl
  | _ => rfl

namespace ConditionFilter

theorem ofJson_toJson (v : Json) : ofJson (ofJson v).toJson = ofJson v := by
  cases v with
  | obj ms =>
    rw [ofJson, ofMembers.eq_def ms]
    cases Members.value ms "condition_groups" with
    | arr gs =>
      have hgroups := map_reread_same ConditionGroup.ofJson_toJson gs
      exact congrArg (fun gs => ConditionFilter.mk (some gs)) hgroups
    | _ => rfl
  | _ => rfl

theorem ofMember_ofOption (v : Json) :
    ofMember (Json.ofOption ((ofMember v).map toJson)) = ofMember v :=
  ofOption_reread ofJson_toJson (fun _ _ => Json.noConfusion) rfl

end ConditionFilter

/-! ## Triggers -/

namespace Trigger

theorem ofMembers_metric (name id : Json) (filter : Option ConditionFilter) :
    ofMembers (metric name id filter).toMembers = metric (name.orElse (.str "")) id
      (ConditionFilter.ofMember (Json.ofOption (filter.map ConditionFilter.toJson))) := by
  have htype : typeText (metric name id filter).toMembers = "metric" :=
    typeText_of_value (value_compact (by simp) _)
  rw [ofMembers, htype]
  simp (disch := simp) only [toMembers, value_compact]
  rfl

theorem ofMembers_list (name id : Json) :
    ofMembers (list name id).toMembers = list (name.orElse (.str "")) id := by
  have htype : typeText (list name id).toMembers = "list" :=
    typeText_of_value (value_compact (by simp) _)
  rw [ofMembers, htype]
  simp (disch := simp) only [toMembers, value_compact]
  rfl

theorem ofMembers_date (property offset : Json) :
    ofMembers (date property offset).toMembers = date (property.orElse (.str "")) offset := by
  have htype : typeText (date property offset).toMembers = "date-property" :=
    typeText_of_value (value_compact (by simp) _)
  rw [ofMembers, htype]
  simp (disch := simp) only [toMembers, value_compact]
  rfl

theorem ofMembers_toMembers (ms : Members) : ofMembers (ofMembers ms).toMembers = ofMembers ms := by
  rw [ofMembers.eq_def ms]
  split
  next => rw [ofMembers_metric, orElse_orElse, ConditionFilter.ofMember_ofOption]
  next => rw [ofMembers_list, orElse_orElse]
  next => rw [ofMembers_date, orElse_orElse]
  next hmetric hlist hdate =>
    rw [toMembers, ofMembers, typeText_of_value rfl]
    split
    · exact (hmetric ‹_›).elim
    · exact (hlist ‹_›).elim
    · exact (hdate ‹_›).elim
    · rfl

end Trigger

/-! ## Settings -/

namespace Reentry

theorem ofMembers_written (mode : String) (value unit : Json) :
    ofMembers (Members.compact [("mode", .str mode), ("value", value), ("unit", unit)]) =
      policy mode value unit := by
  rw [ofMembers, find?_compact (by simp)]
  simp (disch := simp) only [value_compact]
  rfl

theorem ofJson_toJson (v : Json) : ofJson (ofJson v).toJson = ofJson v := by
  cases v with
  | obj ms => exact ofMembers_written _ _ _
  | null => rfl
  | _ => rfl

theorem toJson_ne_null {v : Json} (h : v ≠ .null) : (ofJson v).toJson ≠ .null := by
  cases v with
  | null => exact absurd rfl h
  | _ => exact Json.noConfusion

end Reentry

namespace Settings

theorem ofMembers_written (smartSending utmTracking reentry : Json) :
    ofMembers (Members.compact [("smart_sending", smartSending), ("utm_tracking", utmTracking),
      ("reentry", reentry)]) =
      ⟨smartSending, utmTracking,
        if reentry.isNull then none else some (Reentry.ofJson reentry)⟩ := by
  rw [ofMembers]
  simp (disch := simp) only [value_compact]
  rfl

theorem ofMembers_toJson (ms : Members) :
    ∃ ns, (ofMembers ms).toJson = .obj ns ∧ ofMembers ns = ofMembers ms := by
  refine ⟨_, rfl, ?_⟩
  rw [ofMembers_written]
  exact congrArg (Settings.mk _ _)
    (ofOption_reread Reentry.ofJson_toJson (fun _ => Reentry.toJson_ne_null) rfl)

end Settings

/-! ## Actions -/

/-- A delay with what a missing value and a missing unit stand for in the place of nulls. -/
def Delay.filled (d : Delay) : Delay :=
  { d with value := d.value.unlessNull (.int 0), unit := d.unit.unlessNull (.str "days") }

def Work.filled : Work → Work
  | .delay d => .delay d.filled
  | work => work

namespace Action

def filled (a : Action) : Action :=
  { a with work := a.work.filled }

theorem filled_filled (a : Action) : a.filled.filled = a.filled := by
  obtain ⟨id, work⟩ := a
  cases work with
  | delay d =>
    obtain ⟨value, unit, next⟩ := d
    cases value <;> cases unit <;> rfl
  | _ => rfl

/-- A delay whose value or unit is there and null. -/
def hasNullDelay : Json → Bool
  | .obj ms =>
    Members.typeText ms == "time-delay" &&
      ((Members.find? ms "delay_value").any isNull || (Members.find? ms "delay_unit").any isNull)
  | _ => false

theorem ofMembers_written (id type : String) (own : Members) :
    ofMembers ([("id", .str id), ("type", .str type)] ++ own) =
      ⟨id, workOfMembers type ([("id", .str id), ("type", .str type)] ++ own)⟩ := by
  have hid : Members.value ([("id", .str id), ("type", .str type)] ++ own) "id" = .str id := rfl
  rw [ofMembers, typeText_of_value rfl, hid, orElse_of_isText rfl, text_str]

variable (id : String)

theorem reread_delay (d : Delay) : ofJson (toJson ⟨id, .delay d⟩) = ⟨id, .delay d.filled⟩ := by
  rw [toJson, ofJson, ofMembers_written]
  simp only [typeName, Work.typeName, workOfMembers]
  rw [getD_find?_append_compact (by simp) rfl rfl, getD_find?_append_compact (by simp) rfl rfl,
    value_append_compact (by simp)]
  rfl

theorem reread_email (e : Email) :
    ofJson (toJson ⟨id, .email e⟩) = ⟨id, .email { e with
      message := { e.message with name := e.message.name.orElse (.str "") } }⟩ := by
  rw [toJson, ofJson, ofMembers_written]
  simp only [typeName, Work.typeName, workOfMembers, Message.ofMembers, Message.head]
  simp (disch := simp) only [value_append_compact]
  rfl

theorem reread_sms (t : TextMessage) :
    ofJson (toJson ⟨id, .sms t⟩) = ⟨id, .sms { t with
      message := { t.message with name := t.message.name.orElse (.str "") } }⟩ := by
  rw [toJson, ofJson, ofMembers_written]
  simp only [typeName, Work.typeName, workOfMembers, Message.ofMembers, Message.head]
  simp (disch := simp) only [value_append_compact]
  rfl

theorem reread_split (s : Split) :
    ofJson (toJson ⟨id, .split s⟩) = ⟨id, .split { s with
      condition := s.condition.orElse (.str ""), label := s.label.orElse (.str "") }⟩ := by
  rw [toJson, ofJson, ofMembers_written]
  simp only [typeName, Work.typeName, workOfMembers]
  simp (disch := simp) only [value_append_compact]
  rfl

theorem reread_variants (v : Variants) :
    ofJson (toJson ⟨id, .variants v⟩) = ⟨id, .variants v⟩ := by
  rw [toJson, ofJson, ofMembers_written]
  simp only [typeName, Work.typeName, workOfMembers]
  simp (disch := simp) only [value_append_compact]
  rfl

theorem reread_unknown (type : String) (h : ∀ ms, workOfMembers type ms = .unknown type) :
    ofJson (toJson ⟨id, .unknown type⟩) = ⟨id, .unknown type⟩ := by
  have hread := ofMembers_written id type []
  rwa [h] at hread

theorem ofMembers_toJson (ms : Members) :
    ofJson (ofMembers ms).toJson = (ofMembers ms).filled := by
  rw [ofMembers, workOfMembers.eq_def]
  split
  next => exact reread_delay _ _
  next =>
    simp only [reread_email, Message.ofMembers, orElse_orElse]
    rfl
  next =>
    simp only [reread_sms, Message.ofMembers, orElse_orElse]
    rfl
  next =>
    simp only [reread_split, orElse_orElse]
    rfl
  next => exact reread_variants _ _
  next hdelay hemail hsms hsplit hvariants =>
    exact reread_unknown _ _ (workOfMembers.eq_6 _ · hdelay hemail hsms hsplit hvariants)

theorem ofJson_toJson (v : Json) : ofJson (ofJson v).toJson = (ofJson v).filled := by
  cases v with
  | obj ms => exact ofMembers_toJson ms
  | null => exact reread_unknown "" "" fun _ => rfl
  | _ => rfl

/-- What stands in the place of a null is written, and the null was not. -/
theorem ne_null_of_rearranged_filled {d : Delay}
    (h : Rearranged (toJson ⟨id, .delay d.filled⟩) (toJson ⟨id, .delay d⟩)) :
    d.value ≠ .null ∧ d.unit ≠ .null := by
  obtain ⟨value, unit, next⟩ := d
  -- A rearrangement may be looked up by key, because no key is written twice.
  have hkeys : (([("id", Json.str id), ("type", .str "time-delay")] ++ Members.compact
      [("delay_value", value), ("delay_unit", unit), ("next", next)]).map Prod.fst).Nodup :=
    List.Nodup.sublist (((List.Sublist.refl _).append List.filter_sublist).map Prod.fst)
      (by simp : ["id", "type", "delay_value", "delay_unit", "next"].Nodup)
  constructor
  · rintro ⟨⟩
    have hvalue := rearranged_value h hkeys
      (List.mem_append_right _ (mem_compact_iff.mpr ⟨.head _, Json.noConfusion⟩))
    rw [value_append_compact (by simp)] at hvalue
    exact Json.noConfusion (rearranged_null_iff.mp hvalue)
  · rintro ⟨⟩
    have hunit := rearranged_value h hkeys
      (List.mem_append_right _ (mem_compact_iff.mpr ⟨.tail _ (.head _), Json.noConfusion⟩))
    rw [value_append_compact (by simp)] at hunit
    exact Json.noConfusion (rearranged_null_iff.mp hunit)

/-- What stands for a missing member is not null, so a null that is read was in the document. -/
theorem any_isNull_iff {o : Option Json} {d : Json} (hd : d ≠ .null) :
    o.any isNull = true ↔ o.getD d = .null := by
  cases o with
  | none => simpa using hd
  | some v => simp

theorem hasNullDelay_iff {v : Json} :
    hasNullDelay v = true ↔
      ∃ d, (ofJson v).work = .delay d ∧ (d.value = .null ∨ d.unit = .null) := by
  cases v with
  | obj ms =>
    have hvalue := @any_isNull_iff (Members.find? ms "delay_value") (.int 0) Json.noConfusion
    have hunit := @any_isNull_iff (Members.find? ms "delay_unit") (.str "days") Json.noConfusion
    rw [hasNullDelay, ofJson, ofMembers, Bool.and_eq_true, Bool.or_eq_true, hvalue, hunit,
      beq_iff_eq]
    constructor
    · rintro ⟨htype, h⟩
      rw [htype]
      exact ⟨_, rfl, h⟩
    · rintro ⟨d, hd, h⟩
      rw [workOfMembers.eq_def] at hd
      split at hd
      next htype =>
        cases hd
        exact ⟨htype, h⟩
      all_goals cases hd
  | _ => simp [hasNullDelay, ofJson]

theorem filled_of_not_hasNullDelay {v : Json} (h : hasNullDelay v = false) :
    (ofJson v).filled = ofJson v := by
  rw [← Bool.not_eq_true, hasNullDelay_iff] at h
  generalize ofJson v = a at h ⊢
  obtain ⟨id, work⟩ := a
  cases work with
  | delay d =>
    obtain ⟨hvalue, hunit⟩ := not_or.mp fun hnull => h ⟨d, rfl, hnull⟩
    rw [filled, Work.filled, Delay.filled, unlessNull_of_ne hvalue, unlessNull_of_ne hunit]
  | _ => rfl

theorem not_hasNullDelay_of_rearranged {v : Json}
    (h : Rearranged (ofJson v).filled.toJson (ofJson v).toJson) : hasNullDelay v = false := by
  rw [← Bool.not_eq_true, hasNullDelay_iff]
  rintro ⟨d, hd, hnull⟩
  generalize ofJson v = a at h hd
  obtain ⟨id, work⟩ := a
  cases hd
  obtain ⟨hvalue, hunit⟩ := ne_null_of_rearranged_filled id h
  exact hnull.elim hvalue hunit

end Action

/-! ## Flows -/

namespace Flow

def filled (f : Flow) : Flow :=
  { f with actions := f.actions.map Action.filled }

theorem trigger_reread (v : Json) :
    (match Json.ofOption ((match v with
      | .obj t => some (Trigger.ofMembers t)
      | _ => none).map Trigger.toJson) with
    | .obj t => some (Trigger.ofMembers t)
    | _ => none) = match v with
      | .obj t => some (Trigger.ofMembers t)
      | _ => none := by
  cases v with
  | obj ms => exact congrArg some (Trigger.ofMembers_toMembers ms)
  | _ => rfl

theorem settings_reread (v : Json) :
    (match Json.ofOption ((match v with
      | .obj s => some (Settings.ofMembers s)
      | _ => none).map Settings.toJson) with
    | .obj s => some (Settings.ofMembers s)
    | _ => none) = match v with
      | .obj s => some (Settings.ofMembers s)
      | _ => none := by
  cases v with
  | obj ms =>
    obtain ⟨ns, hns, hread⟩ := Settings.ofMembers_toJson ms
    simp [Json.ofOption, hns, hread]
  | _ => rfl

theorem tags_reread (tags : List Json) :
    ((if tags.isEmpty then Json.null else .arr tags).orElse (.arr [])).iterate = .ok tags := by
  cases tags <;> rfl

theorem ofJson_toJson {ms : Members} {f : Flow} (h : ofJson (.obj ms) = .ok f) :
    ofJson f.toJson = .ok f.filled := by
  obtain ⟨_, ⟨⟩, h⟩ := bind_eq_ok_iff.mp h
  obtain ⟨tags, htags, h⟩ := bind_eq_ok_iff.mp h
  cases h
  rw [toJson_eq]
  refine bind_eq_ok_iff.mpr ⟨_, rfl, ?_⟩
  rw [ofMembers]
  simp (disch := simp) only [value_append_compact]
  refine bind_eq_ok_iff.mpr ⟨tags, tags_reread tags, ?_⟩
  refine congrArg Except.ok ?_
  rw [filled, Flow.mk.injEq]
  exact ⟨orElse_orElse _ _, trigger_reread _, map_reread Action.ofJson_toJson _, orElse_orElse _ _,
    ConditionFilter.ofMember_ofOption _, settings_reread _, rfl⟩

theorem filled_filled (f : Flow) : f.filled.filled = f.filled := by
  rw [filled, filled, List.map_map]
  exact congrArg (Flow.mk _ _ · _ _ _ _) (List.map_congr_left fun a _ => Action.filled_filled a)

theorem rearranged_actions {f g : Flow} (h : Rearranged g.toJson f.toJson) :
    Rearranged (.arr (g.actions.map Action.toJson)) (.arr (f.actions.map Action.toJson)) := by
  rw [toJson_eq, toJson_eq] at h
  have hvalue := rearranged_value h
    (List.Nodup.sublist (((List.Sublist.refl _).append List.filter_sublist).map Prod.fst)
      (by simp : ["name", "trigger", "actions", "entry_action_id", "profile_filter", "settings",
        "tags"].Nodup))
    (List.mem_append_left _ (.tail _ (.tail _ (.head _))))
  rwa [value_append_compact (by simp)] at hvalue

/-- The flow of a document that was written for a flow is written as that document again, up to the
order of members, just in case no delay had a null for its value or unit; it is the same flow then.
In any case it is read from what is written for it. -/
theorem second_reading {ms : Members} {f : Flow} (h : ofJson (.obj ms) = .ok f) :
    ∃ g, ofJson f.toJson = .ok g ∧ ofJson g.toJson = .ok g ∧
      ((∀ v ∈ (ms.value "actions").items, Action.hasNullDelay v = false) → g = f) ∧
      (Rearranged g.toJson f.toJson →
        ∀ v ∈ (ms.value "actions").items, Action.hasNullDelay v = false) := by
  -- Nothing but the delays among the actions can change when the flow is read again.
  have hactions : f.actions = (ms.value "actions").items.map Action.ofJson := by
    obtain ⟨_, ⟨⟩, h⟩ := bind_eq_ok_iff.mp h
    obtain ⟨tags, -, h⟩ := bind_eq_ok_iff.mp h
    cases h
    rfl
  have hread := ofJson_toJson h
  refine ⟨f.filled, hread, ?_, fun hnone => ?_, fun hrearranged => ?_⟩
  · have hthird := ofJson_toJson hread
    rwa [filled_filled] at hthird
  · have hfilled : f.actions.map Action.filled = f.actions := by
      rw [hactions, List.map_map]
      exact List.map_congr_left fun v hv => Action.filled_of_not_hasNullDelay (hnone v hv)
    rw [filled, hfilled]
  · have hitems := rearranged_arr_iff.mp (rearranged_actions hrearranged)
    rw [filled, hactions, List.map_map, List.map_map, List.map_map] at hitems
    exact fun v hv => Action.not_hasNullDelay_of_rearranged (hitems.of_map v hv)

/-- A flow with a pause whose length is null. -/
def pause : Members :=
  [("name", .str "Pause"), ("trigger", .obj [("type", .str "metric"), ("metric_name", .int 0)]),
    ("actions", .arr [.obj [("id", .str "wait"), ("type", .str "time-delay"),
      ("delay_value", .null)], .int 7, .null]), ("entry_action_id", .str "wait")]

theorem pause_second_reading : ∃ f g, ofJson (.obj pause) = .ok f ∧ ofJson f.toJson = .ok g ∧
    ofJson g.toJson = .ok g ∧ ¬ Rearranged g.toJson f.toJson := by
  obtain ⟨g, hread, hthird, -, hsame⟩ := @second_reading pause _ rfl
  refine ⟨_, g, rfl, hread, hthird, fun hrearranged => ?_⟩
  have hnone := hsame hrearranged _ (.head _)
  exact absurd hnone (by decide)

end Flow

end MarketingFlow
