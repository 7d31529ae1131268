import MarketingFlow.Proofs.Flow.Reachability
import MarketingFlow.Proofs.Flow.Validity

/-!
# The graph of a valid flow

What validation finds out about the graph alone. It does not matter here where the flow comes from:
the links of a valid flow name its actions in any case, so it can be traversed, and every action is
visited once.
-/

namespace MarketingFlow.Flow

/-- All ids differ, and the entry and every link that is given name an action. -/
structure Linked (f : Flow) : Prop where
  ids : f.ids.Nodup
  entry : f.Defines f.entry
  links : ∀ a ∈ f.actions, ∀ link ∈ a.links, link.2.given = true → f.Defines link.2

variable {f : Flow} {v : Verdict}

theorem checks_of_valid (hv : f.validate = .ok v) (hvalid : v.valid = true) :
    f.checkRequired = .ok [] ∧ f.checkGraph = .ok [] := by
  obtain ⟨required, graph, unreachable, hr, hg, -, hp, -⟩ := validate_eq_ok_iff.mp hv
  rw [Verdict.valid, List.isEmpty_iff, hp] at hvalid
  simp only [List.append_eq_nil_iff] at hvalid
  obtain ⟨⟨⟨⟨rfl, -⟩, rfl⟩, -⟩, -⟩ := hvalid
  exact ⟨hr, hg⟩

theorem linked_of_valid (hv : f.validate = .ok v) (hvalid : v.valid = true) : f.Linked := by
  obtain ⟨hr, hg⟩ := checks_of_valid hv hvalid
  obtain ⟨-, -, hne, hentry⟩ := checkRequired_eq_nil_iff.mp hr
  obtain ⟨he, hi, hrepeats, hlinks⟩ := (checkGraph_eq_nil_iff hne).mp hg
  refine ⟨?_, ?_, ?_⟩
  · exact (checkRepeats_givenIds_eq_nil_iff fun a ha => (hi a ha).2).mp hrepeats
  · exact (checkEntry_eq_nil_iff hentry).mp he
  · intro a ha link hlink hgiven
    obtain ⟨-, hnamed⟩ := (checkLinks_eq_nil_iff (hi a ha).1).mp (hlinks a ha)
    exact (exists_mem_givenIds_iff hgiven).mp (hnamed link hlink hgiven)

theorem id_ne_empty_of_valid (hv : f.validate = .ok v) (hvalid : v.valid = true) :
    ∀ a ∈ f.actions, a.id ≠ "" := by
  obtain ⟨hr, hg⟩ := checks_of_valid hv hvalid
  obtain ⟨-, -, hne, -⟩ := checkRequired_eq_nil_iff.mp hr
  obtain ⟨-, hi, -, -⟩ := (checkGraph_eq_nil_iff hne).mp hg
  exact fun a ha => (hi a ha).2

namespace Linked

variable (h : f.Linked)

include h

theorem isKey_of_mem_nextIds : ∀ a ∈ f.actions, ∀ target ∈ a.nextIds, target.isKey = true := by
  intro a ha target htarget
  obtain ⟨hmem, hgiven⟩ := List.mem_filter.mp htarget
  obtain ⟨link, hlink, rfl⟩ := List.mem_map.mp hmem
  obtain ⟨b, -, hb⟩ := h.links a ha link hlink hgiven
  rw [hb]
  rfl

theorem exists_traverse : ∃ actions, f.traverse = .ok actions ∧ f.Enumerates actions := by
  have hentry : f.entry.given = true → f.entry.isKey = true := by
    obtain ⟨a, -, ha⟩ := h.entry
    intro _
    rw [ha]
    rfl
  obtain ⟨found, hsearch, htraverse⟩ := traverse_eq_of_isKey h.isKey_of_mem_nextIds hentry
  exact ⟨_, htraverse, hsearch.enumerates⟩

theorem enumerates {actions : List Action} (ht : f.traverse = .ok actions) :
    f.Enumerates actions := by
  obtain ⟨actions', ht', henumerates⟩ := h.exists_traverse
  rw [ht] at ht'
  cases ht'
  exact henumerates

end Linked

/-! ## A valid flow -/

namespace fork

def split : Action :=
  ⟨"split", .split ⟨.str "custom", .str "", .null, .str "first", .str "second"⟩⟩

def wait : Action :=
  ⟨"wait", .delay ⟨.int 1, .str "days", .null⟩⟩

def first : Action :=
  ⟨"first", .email ⟨⟨.str "First", .null, .null, .str "wait"⟩, .null, .null, .null⟩⟩

def second : Action :=
  ⟨"second", .email ⟨⟨.str "Second", .null, .null, .str "wait"⟩, .null, .null,
    .obj [("sections", .arr [])]⟩⟩

end fork

/-- A split with an email on either branch, and a wait where the branches meet. -/
def fork : Flow :=
  { name := .str "Fork"
    trigger := some (.list .null (.str "L1"))
    actions := [fork.second, fork.first, fork.wait, fork.split]
    entry := .str "split"
    profileFilter := none
    settings := none
    tags := [] }

theorem validate_fork : fork.validate = .ok ⟨[], []⟩ := by
  cbv

theorem traverse_fork :
    fork.traverse = .ok [fork.split, fork.first, fork.wait, fork.second] := by
  cbv

end MarketingFlow.Flow
