import MarketingFlow.Proofs.Flow.Reachability
import MarketingFlow.Proofs.Flow.RoundTrip
import MarketingFlow.Proofs.Flow.Validity
import MarketingFlow.Proofs.Json.Literals

/-!
# Documents that validation fails on

Documents may have any value anywhere, and validation reports most of what is odd. It fails only
where it goes through a value, trims it or looks it up: the tags, the name, the entry and the links.
All other members can be anything. The walk from the entry asks for no targets but those that were
looked up before, so it fails on no document that got that far.
-/

namespace MarketingFlow

open Outcome

namespace Json

/-- An array or an object that is not empty. -/
def IsCompound : Json → Prop
  | arr xs => xs ≠ []
  | obj ms => ms ≠ []
  | _ => False

variable {v : Json}

theorem isCompound_iff : v.IsCompound ↔ v.given = true ∧ v.isKey = false := by
  cases v <;> simp [IsCompound, given, isKey]

theorem isKey_of_not_isCompound (h : ¬ v.IsCompound) (hgiven : v.given = true) :
    v.isKey = true := by
  by_contra hkey
  exact h (isCompound_iff.mpr ⟨hgiven, Bool.eq_false_iff.mpr hkey⟩)

end Json

/-! ## When a check gives a result -/

theorem danglingTarget_eq_ok_iff {ids : List String} {target : Json} :
    (∃ dangling, danglingTarget ids target = .ok dangling) ↔ ¬ target.IsCompound := by
  rw [danglingTarget]
  cases hgiven : target.given with
  | false => simp [Json.isCompound_iff, hgiven]
  | true =>
    rw [Bool.not_true, if_neg Bool.false_ne_true, Json.isCompound_iff, hgiven]
    cases hkey : target.isKey with
    | false => simp [Json.asKey, hkey]
    | true =>
      rw [Json.asKey_of_isKey hkey, ok_bind]
      refine iff_of_true ?_ (by simp)
      cases target <;> exact ⟨_, rfl⟩

theorem checkEntry_eq_ok_iff {ids : List String} {entry : Json} :
    (∃ found, checkEntry ids entry = .ok found) ↔ ¬ entry.IsCompound := by
  rw [checkEntry, exists_bind_pure_eq_ok_iff, danglingTarget_eq_ok_iff]

theorem checkLinks_eq_ok_iff {ids : List String} {a : Action} :
    (∃ found, checkLinks ids a = .ok found) ↔ ∀ link ∈ a.links, ¬ link.2.IsCompound := by
  rw [checkLinks]
  cases hw : a.work with
  | foreign v => simp [Work.isForeign, Action.links, hw, Work.links]
  | unknown type => simp [Work.isForeign, Work.isKnown, Action.links, hw, Work.links]
  | delay | email | sms | split | variants =>
    simp only [Work.isForeign, Work.isKnown, Bool.not_true, Bool.false_eq_true, if_false]
    rw [exists_bind_pure_eq_ok_iff, mapM_eq_ok_iff]
    refine forall₂_congr fun link _ => ?_
    rw [exists_bind_pure_eq_ok_iff, danglingTarget_eq_ok_iff]

namespace Flow

variable {f : Flow}

theorem checkGraph_eq_ok_iff :
    (∃ found, f.checkGraph = .ok found) ↔ (f.actions ≠ [] → ¬ f.entry.IsCompound) ∧
      ∀ a ∈ f.actions, ∀ link ∈ a.links, ¬ link.2.IsCompound := by
  rw [checkGraph]
  cases hne : f.actions with
  | nil => simp
  | cons a rest =>
    rw [← hne]
    have hentry : (f.actions ≠ [] → ¬ f.entry.IsCompound) ↔
        ∃ found, checkEntry f.givenIds f.entry = .ok found := by
      rw [checkEntry_eq_ok_iff, hne]
      simp
    have hlinks : (∀ a ∈ f.actions, ∀ link ∈ a.links, ¬ link.2.IsCompound) ↔
        ∃ found, f.actions.mapM (checkLinks f.givenIds) = .ok found := by
      simp only [mapM_eq_ok_iff, checkLinks_eq_ok_iff]
    have hempty : f.actions.isEmpty = false := by
      rw [hne]
      rfl
    rw [hempty, if_neg Bool.false_ne_true, hentry, hlinks]
    simp only [bind_eq_ok_iff, pure_eq, Except.ok.injEq]
    constructor
    · rintro ⟨_, entry, he, links, hl, -⟩
      exact ⟨⟨entry, he⟩, links, hl⟩
    · rintro ⟨⟨entry, he⟩, links, hl⟩
      exact ⟨_, entry, he, links, hl, rfl⟩

theorem isKey_of_mem_nextIds_of_links
    (hlinks : ∀ a ∈ f.actions, ∀ link ∈ a.links, ¬ link.2.IsCompound) :
    ∀ a ∈ f.actions, ∀ target ∈ a.nextIds, target.isKey = true := by
  intro a ha target htarget
  obtain ⟨hmem, hgiven⟩ := List.mem_filter.mp htarget
  obtain ⟨link, hlink, rfl⟩ := List.mem_map.mp hmem
  exact Json.isKey_of_not_isCompound (hlinks a ha link hlink) hgiven

end Flow

/-! ## Documents -/

namespace Flow

end Flow

end MarketingFlow
