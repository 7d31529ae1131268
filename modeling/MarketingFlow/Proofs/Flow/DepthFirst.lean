import MarketingFlow.Proofs.Flow.Walk
import Mathlib

/-!
# Depth-first order by recursion

The order of a flow is defined a second time, without a stack: an id is visited together with all
that its links lead to before its siblings are, and what was visited is handed on. The walk keeps
its stack and its pool of actions in step with this recursion, so both give the same order on every
graph.
-/

namespace MarketingFlow.Flow

/-- The action that a target names, unless its id was seen. -/
def unseen? (f : Flow) (seen : List String) (target : Json) : Option Action :=
  match target with
  | .str id => if id ∈ seen then none else f.find? id
  | _ => none

theorem unseen?_eq_some {f : Flow} {seen : List String} {target : Json} {a : Action}
    (h : f.unseen? seen target = some a) : a ∈ f.actions ∧ a.id ∉ seen := by
  unfold unseen? at h
  split at h
  · split at h
    · cases h
    · rename_i id hid
      have hname : a.id = id := by simpa using List.find?_some h
      exact ⟨List.mem_of_find?_eq_some h, hname ▸ hid⟩
  · cases h

/-- How many actions have an id that was not seen. -/
def unseenCount (f : Flow) (seen : List String) : Nat :=
  f.actions.countP fun a => a.id ∉ seen

theorem unseenCount_lt {f : Flow} {seen seen' : List String} {target : Json} {a : Action}
    (h : f.unseen? seen target = some a) (hs' : a.id ∈ seen') (hsub : seen ⊆ seen') :
    f.unseenCount seen' < f.unseenCount seen := by
  obtain ⟨ha, hs⟩ := unseen?_eq_some h
  obtain ⟨before, after, hsplit⟩ := List.append_of_mem ha
  have hle : ∀ actions : List Action,
      actions.countP (fun b => b.id ∉ seen') ≤ actions.countP (fun b => b.id ∉ seen) := by
    intro actions
    apply List.countP_mono_left
    intro b _ hb
    simp only [decide_eq_true_eq] at hb ⊢
    exact fun hmem => hb (hsub hmem)
  have hbefore := hle before
  have hafter := hle after
  simp only [unseenCount, hsplit, List.countP_append, List.countP_cons, hs, hs', not_true_eq_false,
    not_false_eq_true, decide_true, decide_false, if_true, Bool.false_eq_true, if_false]
  omega

/-- The actions that the targets lead to, each branch to its end before the next one begins. Ids
that were seen before are not visited again, and an id stands for the first action that has it. -/
def depthFirst (f : Flow) (seen : List String) : List Json → List Action
  | [] => []
  | target :: rest =>
    match _h : f.unseen? seen target with
    | none => depthFirst f seen rest
    | some a =>
      let below := depthFirst f (a.id :: seen) a.nextIds
      a :: below ++ depthFirst f (below.map Action.id ++ a.id :: seen) rest
termination_by targets => (f.unseenCount seen, targets.length)
decreasing_by
  · exact Prod.Lex.right _ (by simp)
  · exact Prod.Lex.left _ _ (unseenCount_lt _h (by simp) (by simp))
  · exact Prod.Lex.left _ _ (unseenCount_lt _h (by simp) (by simp))

/-- Every target that is given can be asked for, as texts can. -/
structure KeyTargets (f : Flow) : Prop where
  entry : f.entry.given = true → f.entry.isKey = true
  links : ∀ a ∈ f.actions, ∀ target ∈ a.nextIds, target.isKey = true

/-- The actions whose ids were not seen: what the walk still has in its pool. -/
def unseen (f : Flow) (seen : List String) : List Action :=
  f.actions.filter fun a => a.id ∉ seen

theorem find?_unseen (f : Flow) (seen : List String) (target : Json) :
    (f.unseen seen).find? (Action.namedBy target) = f.unseen? seen target := by
  rw [unseen, List.find?_filter]
  cases target with
  | str id =>
    change _ = if id ∈ seen then none else f.actions.find? (·.id == id)
    by_cases h : id ∈ seen
    · rw [if_pos h, List.find?_eq_none]
      intro a _ ha
      simp only [Action.namedBy, decide_eq_true_eq, beq_iff_eq] at ha
      exact ha.1 (ha.2 ▸ h)
    · rw [if_neg h]
      congr 1
      funext a
      rw [Bool.eq_iff_iff]
      simp only [Action.namedBy, decide_eq_true_eq, beq_iff_eq]
      exact ⟨And.right, fun hid => ⟨hid ▸ h, hid⟩⟩
  | _ => simp [Action.namedBy, unseen?]

theorem without_unseen (f : Flow) (seen : List String) (a : Action) :
    without (f.unseen seen) a = f.unseen (a.id :: seen) := by
  unfold without unseen
  rw [List.filter_filter]
  apply List.filter_congr
  intro b _
  rw [Bool.eq_iff_iff]
  simp

theorem unseen_congr {f : Flow} {seen seen' : List String} (h : ∀ id, id ∈ seen ↔ id ∈ seen') :
    f.unseen seen = f.unseen seen' := by
  simp only [unseen, h]

theorem unseen_nil (f : Flow) : f.unseen [] = f.actions := by
  simp [unseen]

theorem depthFirst_cons_absent {f : Flow} {seen : List String} {target : Json}
    {rest : List Json} (h : f.unseen? seen target = none) :
    f.depthFirst seen (target :: rest) = f.depthFirst seen rest := by
  rw [depthFirst]
  split <;> simp_all

theorem depthFirst_cons_present {f : Flow} {seen : List String} {target : Json}
    {rest : List Json} {a : Action} (h : f.unseen? seen target = some a) :
    f.depthFirst seen (target :: rest) =
      a :: f.depthFirst (a.id :: seen) a.nextIds ++
        f.depthFirst ((f.depthFirst (a.id :: seen) a.nextIds).map Action.id ++ a.id :: seen)
          rest := by
  rw [depthFirst]
  split <;> simp_all

/-- From the pool of the unseen actions, the walk emits the recursion's actions and leaves the
actions that the recursion has not seen either. -/
theorem walk_unseen {f : Flow}
    (hf : ∀ a ∈ f.actions, ∀ target ∈ a.nextIds, target.isKey = true) (seen : List String)
    (targets : List Json) (hk : ∀ target ∈ targets, target.isKey = true) :
    walk (f.unseen seen) targets = .ok (f.depthFirst seen targets,
      f.unseen ((f.depthFirst seen targets).map Action.id ++ seen)) := by
  induction seen, targets using depthFirst.induct f with
  | case1 seen => rw [walk_nil, depthFirst]; rfl
  | case2 seen target rest h ih =>
    have hfind : (f.unseen seen).find? (Action.namedBy target) = none := by rw [find?_unseen, h]
    rw [walk_cons_absent (hk target (by simp)) hfind, depthFirst_cons_absent h]
    exact ih fun t ht => hk t (by simp [ht])
  | case3 seen target rest a h below ihBelow ihRest =>
    have hfind : (f.unseen seen).find? (Action.namedBy target) = some a := by rw [find?_unseen, h]
    have hbelow := ihBelow (hf a (unseen?_eq_some h).1)
    have hrest := ihRest fun t ht => hk t (by simp [ht])
    rw [walk_cons_present (hk target (by simp)) hfind, without_unseen, walk_append, hbelow,
      depthFirst_cons_present h]
    change ((walk (f.unseen (below.map Action.id ++ a.id :: seen)) rest).bind _).bind _ = _
    rw [hrest]
    change Except.ok (a :: (below ++ _), f.unseen _) = Except.ok (a :: below ++ _, f.unseen _)
    rw [List.cons_append, unseen_congr]
    intro id
    simp only [List.mem_append, List.mem_cons, List.map_cons, List.map_append, below]
    tauto

/-- The recursion from the entry, if there is one; then the ids that it did not visit, each with its
first action, in the order of definition. -/
def depthFirstOrder (f : Flow) : List Action :=
  let visited := f.depthFirst [] (if f.entry.given then [f.entry] else [])
  visited ++ (f.actions.filter fun a => a.id ∉ visited.map Action.id).eraseDupsBy
    fun a b => a.id == b.id

theorem firstOfEach_eq_eraseDupsBy (actions : List Action) :
    firstOfEach actions = actions.eraseDupsBy fun a b => a.id == b.id := by
  induction actions using firstOfEach.induct with
  | case1 => rw [firstOfEach, List.eraseDupsBy_nil]
  | case2 a rest ih =>
    rw [firstOfEach, List.eraseDupsBy_cons, ih, without]
    congr 2
    apply List.filter_congr
    intro b _
    rw [Bool.eq_iff_iff]
    simp

/-- The walk with a stack visits in the order of the recursion: on every graph, with cycles, meeting
branches, links to nowhere and repeated ids. -/
theorem traverse_eq_depthFirstOrder {f : Flow} (hf : f.KeyTargets) :
    f.traverse = .ok f.depthFirstOrder := by
  have hwalk : walk f.actions (if f.entry.given then [f.entry] else []) =
      .ok (f.depthFirst [] (if f.entry.given then [f.entry] else []),
        f.unseen ((f.depthFirst [] (if f.entry.given then [f.entry] else [])).map Action.id)) := by
    have h := walk_unseen hf.links [] (if f.entry.given then [f.entry] else []) (by
      intro target ht
      split at ht
      · rename_i hg
        rw [List.mem_singleton.mp ht]
        exact hf.entry hg
      · cases ht)
    rwa [unseen_nil, List.append_nil] at h
  rw [traverse, hwalk]
  change Except.ok (_ ++ firstOfEach _) = _
  rw [firstOfEach_eq_eraseDupsBy, depthFirstOrder, unseen]

/-- Two branches that meet in `c`, a link back to the split, one to nowhere, a repeated id and an
action that nothing leads to. -/
def crossing : Flow :=
  let delay (id : String) (next : Json) : Action := ⟨id, .delay ⟨.int 1, .str "days", next⟩⟩
  { name := .str "Crossing"
    trigger := none
    actions :=
      [⟨"a", .split ⟨.str "custom", .str "", .null, .str "b", .str "c"⟩⟩, delay "d" (.str "x"),
        delay "c" (.str "a"), delay "b" (.str "c"), delay "c" .null, delay "d" .null]
    entry := .str "a"
    profileFilter := none
    settings := none
    tags := [] }

theorem traverse_crossing :
    crossing.KeyTargets ∧ crossing.traverse = .ok crossing.depthFirstOrder ∧
      crossing.depthFirstOrder.map Action.id = ["a", "b", "c", "d"] :=
  have h : crossing.KeyTargets := ⟨by decide, by decide⟩
  ⟨h, traverse_eq_depthFirstOrder h, by cbv⟩

end MarketingFlow.Flow
