import Mathlib.Data.List.Forall2
import MarketingFlow.Proofs.Service.ClosedPayload

/-!
# The conditions of splits in a payload

A split whose condition cannot be expressed gets a placeholder and a warning that names the split.
All other splits get the filter that the author asked for, except that a filter of the author's own
has to be an object: anything else makes way for the filter that lets everyone through, and of that
nothing is said.
-/

namespace MarketingFlow

open Outcome

/-- The filter with no condition at all. -/
def unfiltered : Json :=
  .obj [("condition_groups", .arr [])]

namespace Split

/-- The channel whose consent a split asks for. -/
def channel (s : Split) : String :=
  let channel := s.config.member "channel"
  if channel.given then channel.text else "email"

/-- The filter that the author wrote down, null if there is none. -/
def ownFilter (s : Split) : Json :=
  s.config.member "profile_filter"

def isExpressible (s : Split) : Bool :=
  match s.condition with
  | .str kind => kind == "profile-marketing-consent" || kind == "custom"
  | _ => false

/-- The filter is what the author asked for. -/
inductive Means (s : Split) : Json → Prop where
  | consent (h : s.condition = .str "profile-marketing-consent") : Means s (consentFilter s.channel)
  | own (h : s.condition = .str "custom") (hgiven : s.ownFilter ≠ .null) : Means s s.ownFilter
  | none (h : s.condition = .str "custom") (hnull : s.ownFilter = .null) : Means s unfiltered

/-- The author wrote down a filter that is no object. -/
structure IsGarbled (s : Split) : Prop where
  custom : s.condition = .str "custom"
  ownFilter : s.ownFilter ≠ .null
  isObject : s.ownFilter.isObject = false

theorem IsGarbled.isExpressible {s : Split} (h : s.IsGarbled) : s.isExpressible = true := by
  rw [Split.isExpressible, h.custom]
  rfl

theorem IsGarbled.eq_ownFilter {s : Split} {filter : Json} (h : s.IsGarbled)
    (hmeans : s.Means filter) : filter = s.ownFilter := by
  cases hmeans with
  | consent hkind =>
    rw [h.custom] at hkind
    exact absurd (Json.str.inj hkind) (by decide)
  | own => rfl
  | none _ hnull => exact absurd hnull h.ownFilter

theorem IsGarbled.not_means_unfiltered {s : Split} (h : s.IsGarbled) : ¬s.Means unfiltered := by
  intro hmeans
  have hobject := h.isObject
  rw [← h.eq_ownFilter hmeans] at hobject
  cases hobject

/-- What comes out of a split's condition. -/
inductive Renders (s : Split) : Json → Fidelity → Prop where
  | meant {filter : Json} (h : s.Means filter) (hclean : ¬s.IsGarbled) : Renders s filter .exact
  | garbled (h : s.IsGarbled) : Renders s unfiltered .exact
  | byHand (entry : String) (h : s.isExpressible = false) :
    Renders s (consentFilter "email") (.byHand entry)
  | inexpressible (kind : Json) (h : s.isExpressible = false) :
    Renders s (consentFilter "email") (.inexpressible kind)

theorem renders_consent {s : Split} (h : s.condition = .str "profile-marketing-consent") :
    s.Renders (consentFilter s.channel) .exact := by
  refine .meant (.consent h) fun hgarbled => ?_
  exact absurd (Json.str.inj (h.symm.trans hgarbled.custom)) (by decide)

theorem renders_custom {s : Split} (h : s.condition = .str "custom") :
    s.Renders (if s.ownFilter.isObject then s.ownFilter else unfiltered) .exact := by
  by_cases hgarbled : s.IsGarbled
  · rw [hgarbled.isObject]
    exact .garbled hgarbled
  · refine .meant ?_ hgarbled
    by_cases hnull : s.ownFilter = .null
    · rw [hnull]
      exact .none h hnull
    · have hobject : s.ownFilter.isObject = true := by
        by_contra hobject
        exact hgarbled ⟨h, hnull, Bool.eq_false_iff.mpr hobject⟩
      rw [if_pos hobject]
      exact .own h hnull

theorem renders_of_profileFilter {s : Split} {filter : Json} {fidelity : Fidelity}
    (h : s.profileFilter = .ok (filter, fidelity)) : s.Renders filter fidelity := by
  obtain ⟨kind, hkind, h⟩ := bind_eq_ok_iff.mp h
  have hcondition : s.condition = kind := by
    rw [Json.asKey] at hkind
    split at hkind
    · exact Except.ok.inj hkind
    · cases hkind
  split at h
  next =>
    obtain ⟨channel, hchannel, h⟩ := bind_eq_ok_iff.mp h
    obtain ⟨-, hchannel⟩ := Json.get_orEmpty_eq_ok_iff.mp hchannel
    have htext : (channel.orElse (.str "email")).text = s.channel := by
      rw [Split.channel, hchannel, Json.orElse]
      split <;> rfl
    cases h
    rw [htext]
    exact renders_consent hcondition
  next =>
    obtain ⟨own, hown, h⟩ := bind_eq_ok_iff.mp h
    have hfilter : s.ownFilter = own := (Json.get_orEmpty_eq_ok_iff.mp hown).2
    have hrenders := renders_custom hcondition
    rw [hfilter] at hrenders
    cases own <;> cases h <;> exact hrenders
  next kind hconsent hcustom =>
    have hnot : s.isExpressible = false := by
      rw [isExpressible, hcondition]
      simp_all
    split at h
    next entry _ =>
      cases h
      exact .byHand entry hnot
    next =>
      cases h
      exact .inexpressible _ hnot
  next hconsent hcustom hother =>
    have hnot : s.isExpressible = false := by
      rw [isExpressible, hcondition]
      cases kind with
      | str k => exact absurd rfl (hother k)
      | _ => rfl
    cases h
    exact .inexpressible _ hnot

theorem Means.isExpressible {s : Split} {filter : Json} (h : s.Means filter) :
    s.isExpressible = true := by
  cases h with
  | consent h | own h | none h =>
    rw [Split.isExpressible, h]
    rfl

theorem Renders.eq_unfiltered {s : Split} {filter : Json} {fidelity : Fidelity}
    (h : s.Renders filter fidelity) (hgarbled : s.IsGarbled) : filter = unfiltered := by
  cases h with
  | meant _ hclean => exact absurd hgarbled hclean
  | garbled => rfl
  | byHand entry hnot | inexpressible kind hnot =>
    rw [hgarbled.isExpressible] at hnot
    cases hnot

theorem Renders.means {s : Split} {filter : Json} {fidelity : Fidelity}
    (h : s.Renders filter fidelity) (hclean : ¬s.IsGarbled) {label id : String}
    (hnone : fidelity.warning? label id = none) : s.Means filter := by
  cases h with
  | meant hmeans => exact hmeans
  | garbled hgarbled => exact absurd hgarbled hclean
  | byHand entry | inexpressible kind => cases hnone

/-- How a text about a split starts: with its label and its id. -/
def mention (label id : String) : String :=
  "Conditional split \"" ++ label ++ "\" (" ++ id ++ ")"

def Mentions (label id text : String) : Prop :=
  ∃ rest, text = mention label id ++ rest

theorem Mentions.start (label id rest : String) :
    Mentions label id ("Conditional split \"" ++ label ++ "\" (" ++ id ++ (")" ++ rest)) :=
  ⟨rest, (@String.append_assoc ("Conditional split \"" ++ label ++ "\" (" ++ id) ")" rest).symm⟩

theorem Mentions.append {label id text : String} (h : Mentions label id text) (more : String) :
    Mentions label id (text ++ more) := by
  obtain ⟨rest, h⟩ := h
  exact ⟨rest ++ more, by rw [h, String.append_assoc]⟩

/-- There is a warning if and only if the condition cannot be expressed. -/
theorem Renders.warns {s : Split} {filter : Json} {fidelity : Fidelity}
    (h : s.Renders filter fidelity) (label id : String) :
    (s.isExpressible = true ∧ fidelity.warning? label id = none) ∨
      (s.isExpressible = false ∧
        ∃ text, fidelity.warning? label id = some text ∧ Mentions label id text) := by
  cases h with
  | meant h => exact Or.inl ⟨h.isExpressible, rfl⟩
  | garbled h => exact Or.inl ⟨h.isExpressible, rfl⟩
  | byHand entry h =>
    have hopening : ") uses a placeholder condition. After creation, change it in the UI to " =
        ")" ++ " uses a placeholder condition. After creation, change it in the UI to " := by decide
    rw [Fidelity.warning?, hopening]
    exact Or.inr ⟨h, _, rfl, (((Mentions.start label id _).append _).append _).append _⟩
  | inexpressible kind h =>
    have hopening : ") has condition type \"" = ")" ++ " has condition type \"" := by decide
    rw [Fidelity.warning?, hopening]
    exact Or.inr ⟨h, _, rfl, ((Mentions.start label id _).append _).append _⟩

end Split

/-! ## Splits that leave a warning -/

namespace Action

/-- A split whose condition cannot be expressed. -/
def isDoubtful (a : Action) : Bool :=
  match a.work with
  | .split s => !s.isExpressible
  | _ => false

def NamedBy (a : Action) (text : String) : Prop :=
  Split.Mentions a.label.text a.id text

end Action

namespace Payload

variable {settings : Option Settings} {sender : Sender} {templates : TemplateIds}

theorem compileAction_split {a : Action} {s : Split} {c : Compiled}
    (h : compileAction settings sender templates a = .ok c) (hs : a.work = .split s) :
    ∃ filter, c.data = .obj [("profile_filter", filter)] ∧ s.Renders filter c.fidelity := by
  obtain ⟨⟨data, fidelity⟩, hdata, h⟩ := bind_eq_ok_iff.mp h
  rw [actionData, hs] at hdata
  obtain ⟨⟨filter, fidelity'⟩, hfilter, hdata⟩ := bind_eq_ok_iff.mp hdata
  cases hdata
  cases h
  exact ⟨filter, rfl, Split.renders_of_profileFilter hfilter⟩

/-- A warning comes from a split that cannot be expressed, and names it. -/
theorem warning?_of_compileAction {a : Action} {c : Compiled}
    (h : compileAction settings sender templates a = .ok c) :
    (a.isDoubtful = true ∧ ∃ text, c.warning? = some text ∧ a.NamedBy text) ∨
      (a.isDoubtful = false ∧ c.warning? = none) := by
  have haction := action_of_compileAction h
  by_cases hsplit : ∃ s, a.work = .split s
  · obtain ⟨s, hs⟩ := hsplit
    obtain ⟨filter, -, hrenders⟩ := compileAction_split h hs
    have hdoubtful : a.isDoubtful = !s.isExpressible := by
      rw [Action.isDoubtful, hs]
    rw [Compiled.warning?, haction, hdoubtful]
    rcases hrenders.warns a.label.text a.id with ⟨hyes, hnone⟩ | ⟨hno, htext⟩
    · rw [hyes]
      exact Or.inr ⟨rfl, hnone⟩
    · rw [hno]
      exact Or.inl ⟨rfl, htext⟩
  · apply Or.inr
    obtain ⟨⟨data, fidelity⟩, hdata, h⟩ := bind_eq_ok_iff.mp h
    cases h
    obtain ⟨id, work⟩ := a
    cases work with
    | split s => exact absurd ⟨s, rfl⟩ hsplit
    | variants v | unknown type | foreign v => cases hdata
    | delay d | email e | sms t =>
      cases hdata
      exact ⟨rfl, rfl⟩

theorem warnings_of_mapM {ordered : List Action} {compiled : List Compiled}
    (h : ordered.mapM (compileAction settings sender templates) = .ok compiled) :
    List.Forall₂ Action.NamedBy (ordered.filter Action.isDoubtful)
      (compiled.filterMap Compiled.warning?) := by
  induction ordered generalizing compiled with
  | nil =>
    cases h
    exact .nil
  | cons a rest ih =>
    obtain ⟨c, more, hc, hmore, rfl⟩ := mapM_cons_eq_ok_iff.mp h
    rcases warning?_of_compileAction hc with ⟨ha, text, htext, hnamed⟩ | ⟨ha, hnone⟩
    · rw [List.filter_cons_of_pos ha, List.filterMap_cons_some htext]
      exact .cons hnamed (ih hmore)
    · rw [List.filter_cons_of_neg (Bool.not_eq_true _ ▸ ha), List.filterMap_cons_none hnone]
      exact ih hmore

variable {σ : Type}

/-- The warnings of a payload for a valid flow are those of its doubtful splits, in order. Every
other split has the filter that its author asked for, unless that is no object: then it lets
everyone through, and no warning says so. -/
theorem conditions_kept {f : Flow} {v : Verdict} {service : Option (NameService σ)} {s s' : σ}
    {t : List (Event World)} {creation : Creation} (hv : f.validate = .ok v)
    (hvalid : v.valid = true)
    (h : Program.Reaches ((ofFlow f service sender templates).start s) t
      (.done (.ok creation, s'))) :
    ∃ ordered, f.traverse = .ok ordered ∧ ordered.Perm f.actions ∧
      List.Forall₂ Action.NamedBy (ordered.filter Action.isDoubtful) creation.warnings ∧
      ∀ (i : Nat) (a : Action) (split : Split), ordered[i]? = some a → a.work = .split split →
        ∃ action filter, creation.actions[i]? = some action ∧
          action.member "temporary_id" = .str a.id ∧
          action.member "data" = .obj [("profile_filter", filter)] ∧
          (¬split.IsGarbled →
            (∃ text ∈ creation.warnings, a.NamedBy text) ∨ split.Means filter) ∧
          (split.IsGarbled → filter = unfiltered ∧ ¬split.Means filter ∧ a.isDoubtful = false) := by
  obtain ⟨ordered, compiled, ht, hcompiled, hcreation⟩ :=
    (ensures_ofFlow f service sender templates).reaches h creation rfl
  have hlinked := Flow.linked_of_valid hv hvalid
  have hwarnings := warnings_of_mapM hcompiled
  rw [← hcreation.warnings] at hwarnings
  refine ⟨ordered, ht, (hlinked.enumerates ht).perm hlinked.ids, hwarnings, ?_⟩
  intro i a split ha hsplit
  obtain ⟨c, hc, rfl, hmade⟩ := getElem?_of_mapM hcompiled ha
  obtain ⟨filter, hdata, hrenders⟩ := compileAction_split hmade hsplit
  refine ⟨c.toJson, filter, ?_, rfl, hdata, ?_, ?_⟩
  · rw [hcreation.actions_eq, List.getElem?_map, hc]
    rfl
  · intro hclean
    rcases warning?_of_compileAction hmade with ⟨-, text, htext, hnamed⟩ | ⟨-, hnone⟩
    · apply Or.inl
      rw [hcreation.warnings]
      exact ⟨text, List.mem_filterMap.mpr ⟨c, List.mem_of_getElem? hc, htext⟩, hnamed⟩
    · exact Or.inr (hrenders.means hclean hnone)
  · intro hgarbled
    have hdoubtful : c.action.isDoubtful = false := by
      rw [Action.isDoubtful, hsplit]
      simp only [hgarbled.isExpressible, Bool.not_true]
    rw [hrenders.eq_unfiltered hgarbled]
    exact ⟨rfl, hgarbled.not_means_unfiltered, hdoubtful⟩

namespace sorting

/-- The author left out the object around the groups. -/
def important : Split :=
  ⟨.str "custom", .str "", .obj [("profile_filter", .arr [.obj [("conditions", .arr [])]])],
    .str "readers", .null⟩

def readers : Split :=
  ⟨.str "has-opened-email", .str "", .null, .null, .null⟩

end sorting

/-- A flow that sorts customers by two splits. -/
def sorting : Flow :=
  { name := .str "Sorting"
    trigger := some (.list .null (.str "L1"))
    actions := [⟨"important", .split sorting.important⟩, ⟨"readers", .split sorting.readers⟩]
    entry := .str "important"
    profileFilter := none
    settings := none
    tags := [] }

theorem validate_sorting : sorting.validate = .ok ⟨[], []⟩ := by
  cbv

theorem traverse_sorting : sorting.traverse = .ok sorting.actions := by
  cbv

theorem isGarbled_important : sorting.important.IsGarbled where
  custom := rfl
  ownFilter := Json.noConfusion
  isObject := rfl

/-- The only warning is about the readers, though the other split lets everyone through. -/
theorem conditions_kept_sorting :
    ∃ v t creation action text, sorting.validate = .ok v ∧ v.valid = true ∧
      Program.Reaches ((ofFlow sorting none ⟨.null, .null⟩ [] : Task Unit Creation).start ()) t
        (.done (.ok creation, ())) ∧
      creation.warnings = [text] ∧ Action.NamedBy ⟨"readers", .split sorting.readers⟩ text ∧
      creation.actions[0]? = some action ∧ sorting.important.IsGarbled ∧
      action.member "data" = .obj [("profile_filter", unfiltered)] := by
  have hlast : ∃ creation, (Program.record World.smooth 8
      ((ofFlow sorting none ⟨.null, .null⟩ [] : Task Unit Creation).start ())).2.result? =
        some (.ok creation, ()) := by
    simp only [ofFlow, traverse_sorting]
    exact ⟨_, rfl⟩
  obtain ⟨creation, hlast⟩ := hlast
  have hrun := Program.reaches_of_record hlast
  obtain ⟨ordered, ht, -, hwarnings, hsplits⟩ := conditions_kept validate_sorting rfl hrun
  obtain rfl := Except.ok.inj (traverse_sorting.symm.trans ht)
  obtain ⟨action, filter, haction, -, hdata, -, hgarbled⟩ := hsplits 0 _ _ rfl rfl
  rw [(hgarbled isGarbled_important).1] at hdata
  have hdoubtful : sorting.actions.filter Action.isDoubtful =
      [⟨"readers", .split sorting.readers⟩] := rfl
  rw [hdoubtful, List.forall₂_cons_left_iff] at hwarnings
  obtain ⟨text, rest, hnamed, hrest, hcreation⟩ := hwarnings
  rw [List.forall₂_nil_left_iff] at hrest
  rw [hrest] at hcreation
  exact ⟨_, _, creation, action, text, validate_sorting, rfl, hrun, hcreation, hnamed, haction,
    isGarbled_important, hdata⟩

end Payload

end MarketingFlow
