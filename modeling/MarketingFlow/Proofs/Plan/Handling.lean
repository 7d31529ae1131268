import MarketingFlow.Plan.OfFlow
import MarketingFlow.Proofs.Plan.Carrying

/-!
# What comes of the steps

Which steps are attempted and which succeed, read off the performances of a run of steps, first step
by step, then for the three steps of an action, then for the actions of a flow one after the other.
-/

namespace MarketingFlow.Plan

/-- The step was attempted. -/
def Tried (w : List (Step × Bool)) (s : Step) : Prop :=
  ∃ success, (s, success) ∈ w

/-- An attempt at the step succeeded. -/
def Done (w : List (Step × Bool)) (s : Step) : Prop :=
  (s, true) ∈ w

theorem Done.tried {w : List (Step × Bool)} {s : Step} (h : Done w s) : Tried w s :=
  ⟨true, h⟩

@[simp] theorem not_tried_nil (s : Step) : ¬ Tried [] s := by
  simp [Tried]

@[simp] theorem not_done_nil (s : Step) : ¬ Done [] s := by
  simp [Done]

@[simp] theorem tried_append {u v : List (Step × Bool)} {s : Step} :
    Tried (u ++ v) s ↔ Tried u s ∨ Tried v s := by
  simp [Tried, exists_or]

@[simp] theorem done_append {u v : List (Step × Bool)} {s : Step} :
    Done (u ++ v) s ↔ Done u s ∨ Done v s := by
  simp [Done]

@[simp] theorem tried_tries {s s' : Step} {failures : Nat} {success : Bool} :
    Tried (tries s failures success) s' ↔ s' = s := by
  constructor
  · rintro ⟨_, h⟩
    rcases List.mem_append.mp h with h | h
    · exact congrArg Prod.fst (List.eq_of_mem_replicate h)
    · exact congrArg Prod.fst (List.mem_singleton.mp h)
  · rintro rfl
    exact ⟨success, List.mem_append_right _ (List.mem_singleton.mpr rfl)⟩

@[simp] theorem done_tries {s s' : Step} {failures : Nat} {success : Bool} :
    Done (tries s failures success) s' ↔ s' = s ∧ success = true := by
  simp [Done, tries, eq_comm]

theorem countP_tries (s : Step) (failures : Nat) (success : Bool) (i : Int) :
    ((tries s failures success).countP fun x => x.1.index == i) =
      if s.index = i then failures + 1 else 0 := by
  by_cases h : s.index = i <;> simp [tries, List.countP_replicate, h]

theorem countP_tries_append_le {s : Step} {failures most : Nat} {success : Bool}
    (hmost : failures < most) {w : List (Step × Bool)} {i : Int}
    (hle : (w.countP fun x => x.1.index == i) ≤ most) (hw : ∀ x ∈ w, x.1.index ≠ s.index) :
    ((tries s failures success ++ w).countP fun x => x.1.index == i) ≤ most := by
  rw [List.countP_append, countP_tries]
  split
  next heq =>
    have hnone : (w.countP fun x => x.1.index == i) = 0 := by
      refine List.countP_eq_zero.mpr fun x hx hi => hw x hx ?_
      rw [eq_of_beq hi, heq]
    omega
  next => omega

/-! ## One step after the other -/

/-- The progress after a step that was attempted and did not end the run. -/
structure Follows (s : Step) (success : Bool) (p q : Progress) : Prop where
  error : q.error = p.error
  failed : q.failed = p.failed ++ (if success then [] else s.owner?.toList)
  results : q.results.map StepResult.step = p.results.map StepResult.step ++ [s]

theorem Follows.succeed (s : Step) (p : Progress) : Follows s true p (p.succeed s) where
  error := rfl
  failed := by simp [Progress.succeed, Progress.add]
  results := by simp [Progress.succeed, Progress.add]

theorem Follows.goOn (s : Step) (p : Progress) (f : Failure) (shot : Json) :
    Follows s false p ((p.fail s f shot).goOn s f) where
  error := rfl
  failed := by simp [Progress.goOn, Progress.fail, Progress.add]
  results := by simp [Progress.goOn, Progress.fail, Progress.add]

namespace Carried

variable {most : Nat} {s : Step} {rest steps : List Step} {p q : Progress}
  {w : List (Step × Bool)}

theorem of_skips (h : Carried most (s :: rest) p w q) (hskips : p.skips s = true) :
    Carried most rest (p.skip s) w q := by
  cases h with
  | skip _ hrest => exact hrest
  | succeed hno | abort hno | goOn hno =>
    rw [hskips] at hno
    cases hno

theorem of_plain (h : Carried most (s :: rest) p w q) (hskips : p.skips s = false)
    (hcritical : s.critical = false) :
    ∃ failures success p' w', w = tries s failures success ++ w' ∧ Follows s success p p' ∧
      Carried most rest p' w' q := by
  cases h with
  | skip hyes =>
    rw [hskips] at hyes
    cases hyes
  | succeed _ _ hrest => exact ⟨_, true, _, _, rfl, .succeed s p, hrest⟩
  | abort _ hyes =>
    rw [hcritical] at hyes
    cases hyes
  | goOn _ _ _ f shot hrest => exact ⟨_, false, _, _, rfl, .goOn s p f shot, hrest⟩

theorem of_critical (h : Carried most (s :: rest) p w q) (hskips : p.skips s = false)
    (hcritical : s.critical = true) :
    (∃ failures p' w', w = tries s failures true ++ w' ∧ Follows s true p p' ∧
      Carried most rest p' w' q) ∨
    ∃ failures, w = tries s failures false ∧ q.error.isSome = true ∧
      q.results.map StepResult.step = p.results.map StepResult.step ++ [s] := by
  cases h with
  | skip hyes =>
    rw [hskips] at hyes
    cases hyes
  | succeed _ _ hrest => exact .inl ⟨_, _, _, rfl, .succeed s p, hrest⟩
  | abort _ _ _ f shot =>
    exact .inr ⟨_, rfl, rfl, by simp [Progress.abort, Progress.fail, Progress.add]⟩
  | goOn _ hno =>
    rw [hcritical] at hno
    cases hno

theorem append {xs ys : List Step} (hplain : ∀ s ∈ xs, s.critical = false)
    (h : Carried most (xs ++ ys) p w q) :
    ∃ u v p', w = u ++ v ∧ Carried most xs p u p' ∧ Carried most ys p' v q := by
  induction xs generalizing p w with
  | nil => exact ⟨[], w, p, rfl, .nil p, h⟩
  | cons s xs ih =>
    obtain ⟨hs, hxs⟩ := List.forall_mem_cons.mp hplain
    cases h with
    | skip hskips hrest =>
      obtain ⟨u, v, p', rfl, hu, hv⟩ := ih hxs hrest
      exact ⟨u, v, p', rfl, .skip hskips hu, hv⟩
    | succeed hskips hmost hrest =>
      obtain ⟨u, v, p', rfl, hu, hv⟩ := ih hxs hrest
      exact ⟨_, v, p', (List.append_assoc _ _ _).symm, .succeed hskips hmost hu, hv⟩
    | abort _ hcritical =>
      rw [hs] at hcritical
      cases hcritical
    | goOn hskips hcritical hmost f shot hrest =>
      obtain ⟨u, v, p', rfl, hu, hv⟩ := ih hxs hrest
      exact ⟨_, v, p', (List.append_assoc _ _ _).symm, .goOn hskips hcritical hmost f shot hu, hv⟩

theorem mem_of_tried (h : Carried most steps p w q) {s : Step} (hs : Tried w s) : s ∈ steps := by
  induction h with
  | nil p => exact absurd hs (not_tried_nil s)
  | skip _ _ ih => exact List.mem_cons_of_mem _ (ih hs)
  | succeed _ _ _ ih | goOn _ _ _ _ _ _ ih =>
    rcases tried_append.mp hs with hs | hs
    · rw [tried_tries.mp hs]
      exact List.mem_cons_self
    · exact List.mem_cons_of_mem _ (ih hs)
  | abort =>
    rw [tried_tries.mp hs]
    exact List.mem_cons_self

theorem countP_le (h : Carried most steps p w q) (hindex : (steps.map Step.index).Nodup)
    (i : Int) : (w.countP fun x => x.1.index == i) ≤ most := by
  induction h with
  | nil p => exact Nat.zero_le most
  | skip _ _ ih => exact ih (List.nodup_cons.mp hindex).2
  | abort _ _ hmost =>
    rw [countP_tries]
    split <;> omega
  | succeed _ hmost hrest ih | goOn _ _ hmost _ _ hrest ih =>
    obtain ⟨hs, hindex⟩ := List.nodup_cons.mp hindex
    refine countP_tries_append_le hmost (ih hindex) fun x hx heq => hs ?_
    rw [← heq]
    exact List.mem_map_of_mem (hrest.mem_of_tried ⟨x.2, hx⟩)

/-- Where no step is critical, the run gets past all of them. -/
theorem passes (h : Carried most steps p w q) (hplain : ∀ s ∈ steps, s.critical = false) :
    q.error = p.error ∧
      q.results.map StepResult.step = p.results.map StepResult.step ++ steps := by
  induction h with
  | nil p => simp
  | @skip s _ p _ _ _ _ ih =>
    obtain ⟨herror, hresults⟩ := ih (List.forall_mem_cons.mp hplain).2
    exact ⟨herror, by simp [hresults, Progress.skip, Progress.add]⟩
  | @succeed s _ p _ _ _ _ _ _ ih =>
    obtain ⟨herror, hresults⟩ := ih (List.forall_mem_cons.mp hplain).2
    exact ⟨herror, by simp [hresults, (Follows.succeed s p).results]⟩
  | abort _ hcritical =>
    rw [(List.forall_mem_cons.mp hplain).1] at hcritical
    cases hcritical
  | @goOn s _ p _ _ _ _ _ _ f shot _ ih =>
    obtain ⟨herror, hresults⟩ := ih (List.forall_mem_cons.mp hplain).2
    exact ⟨herror, by simp [hresults, (Follows.goOn s p f shot).results]⟩

/-- A step without an owner is never skipped. -/
theorem tried_of_unowned (h : Carried most steps p w q)
    (hplain : ∀ s ∈ steps, s.critical = false) {s : Step} (hs : s ∈ steps)
    (howner : s.owner? = none) : Tried w s := by
  induction h with
  | nil => cases hs
  | skip hskips _ ih =>
    rcases List.mem_cons.mp hs with rfl | hs
    · rw [Progress.skips, howner] at hskips
      cases hskips
    · exact ih (List.forall_mem_cons.mp hplain).2 hs
  | succeed _ _ _ ih | goOn _ _ _ _ _ _ ih =>
    rcases List.mem_cons.mp hs with rfl | hs
    · exact tried_append.mpr (.inl (tried_tries.mpr rfl))
    · exact tried_append.mpr (.inr (ih (List.forall_mem_cons.mp hplain).2 hs))
  | abort _ hcritical =>
    rw [(List.forall_mem_cons.mp hplain).1] at hcritical
    cases hcritical

/-- An action fails by its own steps only. -/
theorem mem_failed_iff (h : Carried most steps p w q) {id : String}
    (hothers : ∀ s ∈ steps, s.owner? ≠ some id) : id ∈ q.failed ↔ id ∈ p.failed := by
  induction h with
  | nil | abort => exact Iff.rfl
  | skip _ _ ih | succeed _ _ _ ih => exact ih (List.forall_mem_cons.mp hothers).2
  | @goOn s _ p _ _ _ _ _ _ f shot _ ih =>
    obtain ⟨hs, hothers⟩ := List.forall_mem_cons.mp hothers
    rw [ih hothers, (Follows.goOn s p f shot).failed]
    simp [Option.mem_toList, hs]

end Carried

/-! ## The steps of an action -/

def entry (s : Step) : Entry :=
  ⟨s.operation, s.actionId, s.params, s.critical⟩

/-- The steps that belong to an action. -/
def ownedBy (steps : List Step) (id : String) : List Step :=
  steps.filter fun s => s.owner? == some id

/-- The steps of an action: it is added, then configured if that went well, and it counts as failed
unless both did. -/
structure Handled (settings : Option Settings) (steps : List Step) (w : List (Step × Bool))
    (failed : List String) (a : Action) (add configure : Step) : Prop where
  owned : ownedBy steps a.id = [add, configure]
  adds : add.operation = .addAction
  configures : configure.operation = (configuration a settings).1
  added : Tried w add
  configured : Tried w configure ↔ Done w add
  failed : a.id ∈ failed ↔ ¬ (Done w add ∧ Done w configure)

section

variable {most : Nat} {settings : Option Settings} {steps : List Step} {p q : Progress}
  {w : List (Step × Bool)} {a : Action}

theorem owner?_of_entry {s : Step} {id : String} (hid : id ≠ "") (h : s.actionId = some id) :
    s.owner? = some id := by
  simp [Step.owner?, h, hid]

theorem owner?_eq_none_of_entry {s : Step} (h : s.actionId = none) : s.owner? = none := by
  rw [Step.owner?, h]
  rfl

theorem skips_eq {s : Step} {id : String} (h : s.owner? = some id) :
    p.skips s = p.failed.contains id := by
  rw [Progress.skips, h]

theorem skips_of_unowned {s : Step} (h : s.owner? = none) : p.skips s = false := by
  rw [Progress.skips, h]

/-- The two steps of an action that is not out yet. The second one is skipped if the first one
failed, and the action is out unless both succeeded. -/
theorem Carried.of_owned {first second : Step} {rest : List Step} {id : String}
    (hfirst : first.owner? = some id) (hsecond : second.owner? = some id)
    (hfirstPlain : first.critical = false) (hsecondPlain : second.critical = false)
    (hfresh : id ∉ p.failed) (h : Carried most (first :: second :: rest) p w q) :
    (∃ n m success p' v, w = tries first n true ++ (tries second m success ++ v) ∧
      p'.failed = p.failed ++ (if success then [] else [id]) ∧ Carried most rest p' v q) ∨
    ∃ n p' v, w = tries first n false ++ v ∧ p'.failed = p.failed ++ [id] ∧
      Carried most rest p' v q := by
  have hfirstSkips : p.skips first = false := by
    rw [skips_eq hfirst]
    simpa using hfresh
  obtain ⟨n, succeeded, p₁, w₁, rfl, hp₁, h₁⟩ := h.of_plain hfirstSkips hfirstPlain
  cases succeeded with
  | true =>
    have hfailed₁ : p₁.failed = p.failed := by simp [hp₁.failed]
    have hsecondSkips : p₁.skips second = false := by
      rw [skips_eq hsecond, hfailed₁]
      simpa using hfresh
    obtain ⟨m, success, p₂, w₂, rfl, hp₂, h₂⟩ := h₁.of_plain hsecondSkips hsecondPlain
    refine .inl ⟨n, m, success, p₂, w₂, rfl, ?_, h₂⟩
    rw [hp₂.failed, hfailed₁, hsecond]
    rfl
  | false =>
    have hfailed₁ : p₁.failed = p.failed ++ [id] := by simp [hp₁.failed, hfirst]
    have hsecondSkips : p₁.skips second = true := by
      rw [skips_eq hsecond, hfailed₁]
      simp
    exact .inr ⟨n, p₁.skip second, w₁, rfl, hfailed₁, h₁.of_skips hsecondSkips⟩

theorem handled_action {add configure dismiss : Step} (hid : a.id ≠ "")
    (hentries : [add, configure, dismiss].map entry = actionEntries settings a)
    (hnodup : [add, configure, dismiss].Nodup) (hfresh : a.id ∉ p.failed)
    (h : Carried most [add, configure, dismiss] p w q) :
    Handled settings [add, configure, dismiss] w q.failed a add configure := by
  simp only [actionEntries, List.map_cons, List.map_nil, List.cons.injEq, entry,
    Entry.mk.injEq] at hentries
  obtain ⟨⟨hadd, haddId, -, haddPlain⟩, ⟨hconf, hconfId, -, hconfPlain⟩,
    ⟨-, hdisId, -, -⟩, -⟩ := hentries
  have haddOwner := owner?_of_entry hid haddId
  have hconfOwner := owner?_of_entry hid hconfId
  have hdisOwner := owner?_eq_none_of_entry hdisId
  have howned : ownedBy [add, configure, dismiss] a.id = [add, configure] := by
    simp [ownedBy, haddOwner, hconfOwner, hdisOwner]
  obtain ⟨⟨hac, had⟩, hcd⟩ : (add ≠ configure ∧ add ≠ dismiss) ∧ configure ≠ dismiss := by
    simpa using hnodup
  -- nothing that is left attempts the first two steps or lets the action fail
  have hlast : ∀ {p' : Progress} {v : List (Step × Bool)}, Carried most [dismiss] p' v q →
      ¬ Tried v add ∧ ¬ Tried v configure ∧ (a.id ∈ q.failed ↔ a.id ∈ p'.failed) := by
    intro p' v hv
    refine ⟨fun ht => had ?_, fun ht => hcd ?_, hv.mem_failed_iff ?_⟩
    · simpa using hv.mem_of_tried ht
    · simpa using hv.mem_of_tried ht
    · simp [hdisOwner]
  rcases h.of_owned haddOwner hconfOwner haddPlain hconfPlain hfresh with
    ⟨n, m, success, p', v, rfl, hfailed, hv⟩ | ⟨n, p', v, rfl, hfailed, hv⟩
  · obtain ⟨-, hnotTried, hout⟩ := hlast hv
    have hnotDone : ¬ Done v configure := fun hd => hnotTried hd.tried
    refine ⟨howned, hadd, hconf, by simp, by simp, ?_⟩
    rw [hout, hfailed]
    cases success <;> simp [hfresh, hac.symm, hnotDone]
  · obtain ⟨hnotAdd, hnotConf, hout⟩ := hlast hv
    have hnotDone : ¬ Done v add := fun hd => hnotAdd hd.tried
    refine ⟨howned, hadd, hconf, by simp, ?_, ?_⟩
    · simp [hac.symm, hnotConf, hnotDone]
    · rw [hout, hfailed]
      simp [hnotDone]

theorem owner?_of_mem {as : List Action} (hnamed : ∀ a ∈ as, a.id ≠ "")
    (hentries : steps.map entry = as.flatMap (actionEntries settings)) {s : Step} (hs : s ∈ steps)
    {id : String} (howner : s.owner? = some id) : id ∈ as.map Action.id := by
  have hmem : entry s ∈ as.flatMap (actionEntries settings) := hentries ▸ List.mem_map_of_mem hs
  obtain ⟨a, ha, hentry⟩ := List.mem_flatMap.mp hmem
  have hactionId : s.actionId = some a.id ∨ s.actionId = none := by
    simp only [actionEntries, List.mem_cons, List.not_mem_nil, or_false, entry,
      Entry.mk.injEq] at hentry
    rcases hentry with ⟨-, h, -⟩ | ⟨-, h, -⟩ | ⟨-, h, -⟩
    · exact .inl h
    · exact .inl h
    · exact .inr h
  rcases hactionId with hactionId | hactionId
  · rw [owner?_of_entry (hnamed a ha) hactionId] at howner
    cases howner
    exact List.mem_map_of_mem ha
  · rw [owner?_eq_none_of_entry hactionId] at howner
    cases howner

theorem critical_of_mem {as : List Action}
    (hentries : steps.map entry = as.flatMap (actionEntries settings)) :
    ∀ s ∈ steps, s.critical = false := by
  intro s hs
  have hmem : entry s ∈ as.flatMap (actionEntries settings) := hentries ▸ List.mem_map_of_mem hs
  obtain ⟨a, -, hentry⟩ := List.mem_flatMap.mp hmem
  simp only [actionEntries, List.mem_cons, List.not_mem_nil, or_false, entry,
    Entry.mk.injEq] at hentry
  rcases hentry with ⟨-, -, -, h⟩ | ⟨-, -, -, h⟩ | ⟨-, -, -, h⟩ <;> exact h

theorem ownedBy_eq_nil {id : String} (h : ∀ s ∈ steps, s.owner? ≠ some id) :
    ownedBy steps id = [] :=
  List.filter_eq_nil_iff.mpr fun s hs howner => h s hs (eq_of_beq howner)

theorem Handled.owner?_eq {add configure : Step} {failed : List String}
    (h : Handled settings steps w failed a add configure) :
    ∀ s ∈ [add, configure], s.owner? = some a.id := by
  intro s hs
  rw [← h.owned] at hs
  simpa using (List.mem_filter.mp hs).2

theorem ownedBy_append (xs ys : List Step) (id : String) :
    ownedBy (xs ++ ys) id = ownedBy xs id ++ ownedBy ys id :=
  List.filter_append ..

/-- Other steps before and after those of an action do not change what is said of it. -/
theorem Handled.around {add configure : Step} {failed failed' : List String}
    (h : Handled settings steps w failed a add configure) (before after : List Step)
    (u v : List (Step × Bool)) (hbefore : ∀ s ∈ before, s.owner? ≠ some a.id)
    (hafter : ∀ s ∈ after, s.owner? ≠ some a.id) (hu : ∀ s, Tried u s → s ∈ before)
    (hv : ∀ s, Tried v s → s ∈ after) (hfailed : a.id ∈ failed' ↔ a.id ∈ failed) :
    Handled settings (before ++ steps ++ after) (u ++ w ++ v) failed' a add configure := by
  have htried : ∀ s ∈ [add, configure], (Tried (u ++ w ++ v) s ↔ Tried w s) := by
    intro s hs
    have hnu : ¬ Tried u s := fun hs' => hbefore s (hu s hs') (h.owner?_eq s hs)
    have hnv : ¬ Tried v s := fun hs' => hafter s (hv s hs') (h.owner?_eq s hs)
    simp [hnu, hnv]
  have hdone : ∀ s ∈ [add, configure], (Done (u ++ w ++ v) s ↔ Done w s) := by
    intro s hs
    have hnu : ¬ Done u s := fun hs' => hbefore s (hu s hs'.tried) (h.owner?_eq s hs)
    have hnv : ¬ Done v s := fun hs' => hafter s (hv s hs'.tried) (h.owner?_eq s hs)
    simp [hnu, hnv]
  have haddDone := hdone add (.head _)
  have hconfDone := hdone configure (.tail _ (.head _))
  exact {
    owned := by
      rw [ownedBy_append, ownedBy_append, ownedBy_eq_nil hbefore, ownedBy_eq_nil hafter, h.owned]
      rfl
    adds := h.adds
    configures := h.configures
    added := (htried add (.head _)).mpr h.added
    configured := by rw [htried configure (.tail _ (.head _)), haddDone, h.configured]
    failed := by rw [hfailed, haddDone, hconfDone, h.failed] }

/-- The steps of the first action, and those of the others. -/
theorem exists_block {as : List Action}
    (hentries : steps.map entry = (a :: as).flatMap (actionEntries settings)) :
    ∃ add configure dismiss rest, steps = [add, configure, dismiss] ++ rest ∧
      [add, configure, dismiss].map entry = actionEntries settings a ∧
      rest.map entry = as.flatMap (actionEntries settings) := by
  rw [List.flatMap_cons] at hentries
  obtain ⟨block, rest, rfl, hblock, hrest⟩ := List.map_eq_append_iff.mp hentries
  obtain ⟨add, block₁, rfl, -, h₁⟩ := List.map_eq_cons_iff.mp hblock
  obtain ⟨configure, block₂, rfl, -, h₂⟩ := List.map_eq_cons_iff.mp h₁
  obtain ⟨dismiss, block₃, rfl, -, h₃⟩ := List.map_eq_cons_iff.mp h₂
  obtain rfl := List.map_eq_nil_iff.mp h₃
  exact ⟨add, configure, dismiss, rest, rfl, hblock, hrest⟩

theorem handled_actions {as : List Action} (hnamed : ∀ a ∈ as, a.id ≠ "")
    (hids : (as.map Action.id).Nodup)
    (hentries : steps.map entry = as.flatMap (actionEntries settings)) (hnodup : steps.Nodup)
    (hfresh : ∀ a ∈ as, a.id ∉ p.failed) (h : Carried most steps p w q) :
    ∀ a ∈ as, ∃ add configure, Handled settings steps w q.failed a add configure := by
  induction as generalizing steps p w with
  | nil => exact fun a ha => absurd ha List.not_mem_nil
  | cons a as ih =>
    obtain ⟨hid, hnamedRest⟩ := List.forall_mem_cons.mp hnamed
    obtain ⟨hafresh, hfresh⟩ := List.forall_mem_cons.mp hfresh
    obtain ⟨ha, hids⟩ := List.nodup_cons.mp hids
    have hapart : ∀ b ∈ as, b.id ≠ a.id := fun b hb heq => ha (heq ▸ List.mem_map_of_mem hb)
    obtain ⟨add, configure, dismiss, rest, rfl, hblock, hrest⟩ := exists_block hentries
    have hblock' : [add, configure, dismiss].map entry = [a].flatMap (actionEntries settings) := by
      simpa using hblock
    have howners : ∀ b ∈ as, ∀ s ∈ [add, configure, dismiss], s.owner? ≠ some b.id := by
      intro b hb s hs howner
      have hmem := owner?_of_mem (List.forall_mem_singleton.mpr hid) hblock' hs howner
      exact hapart b hb (List.mem_singleton.mp hmem)
    obtain ⟨u, v, p', rfl, hu, hv⟩ := h.append (critical_of_mem hblock')
    obtain ⟨hnodupBlock, hnodupRest, -⟩ := List.nodup_append.mp hnodup
    have hfresh' : ∀ b ∈ as, b.id ∉ p'.failed := by
      intro b hb
      rw [hu.mem_failed_iff (howners b hb)]
      exact hfresh b hb
    have hnotOwned : ∀ s ∈ rest, s.owner? ≠ some a.id :=
      fun s hs howner => ha (owner?_of_mem hnamedRest hrest hs howner)
    refine List.forall_mem_cons.mpr ⟨⟨add, configure, ?_⟩, fun b hb => ?_⟩
    · have hhandled := handled_action hid hblock hnodupBlock hafresh hu
      exact hhandled.around [] rest [] v (fun s hs => absurd hs List.not_mem_nil) hnotOwned
        (fun s hs => absurd hs (not_tried_nil s)) (fun s hs => hv.mem_of_tried hs)
        (hv.mem_failed_iff hnotOwned)
    · obtain ⟨add', configure', hhandled⟩ :=
        ih hnamedRest hids hrest hnodupRest hfresh' hv b hb
      refine ⟨add', configure', ?_⟩
      simpa using hhandled.around [add, configure, dismiss] [] u [] (howners b hb)
        (fun s hs => absurd hs List.not_mem_nil) (fun s hs => hu.mem_of_tried hs)
        (fun s hs => absurd hs (not_tried_nil s)) Iff.rfl

theorem configuration_ne (a : Action) (settings : Option Settings) :
    (configuration a settings).1 ≠ .addAction ∧ (configuration a settings).1 ≠ .setReentry := by
  unfold configuration
  cases a.work <;> simp

section

variable {as : List Action} {last : List Step} (hnamed : ∀ a ∈ as, a.id ≠ "")
  (hids : (as.map Action.id).Nodup)
  (hentries : steps.map entry = as.flatMap (actionEntries settings)) (hnodup : steps.Nodup)
  (hfresh : ∀ a ∈ as, a.id ∉ p.failed) (howner : ∀ s ∈ last, s.owner? = none)

include hnamed hids hentries hnodup hfresh howner

/-- The actions of a flow, with steps of the flow itself after them. -/
theorem handled_actions_append (h : Carried most (steps ++ last) p w q) :
    ∀ a ∈ as, ∃ add configure, Handled settings (steps ++ last) w q.failed a add configure := by
  intro a ha
  obtain ⟨u, v, p', rfl, hu, hv⟩ := h.append (critical_of_mem hentries)
  obtain ⟨add, configure, hhandled⟩ := handled_actions hnamed hids hentries hnodup hfresh hu a ha
  have hnotOwned : ∀ s ∈ last, s.owner? ≠ some a.id := by
    intro s hs
    rw [howner s hs]
    exact nofun
  exact ⟨add, configure, hhandled.around [] last [] v (fun s hs => absurd hs List.not_mem_nil)
    hnotOwned (fun s hs => absurd hs (not_tried_nil s)) (fun s hs => hv.mem_of_tried hs)
    (hv.mem_failed_iff hnotOwned)⟩

/-- Only the step that configures an action is ever left out. -/
theorem tried_of_kind (hcritical : ∀ s ∈ last, s.critical = false)
    (h : Carried most (steps ++ last) p w q) {s : Step} (hs : s ∈ steps ++ last)
    (hkind : s.operation = .addAction ∨ s.operation = .setReentry ∨ s.owner? = none) :
    Tried w s := by
  have hplain : ∀ s ∈ steps ++ last, s.critical = false :=
    List.forall_mem_append.mpr ⟨critical_of_mem hentries, hcritical⟩
  cases hid : s.owner? with
  | none => exact h.tried_of_unowned hplain hs hid
  | some id =>
    have hsteps : s ∈ steps := by
      refine (List.mem_append.mp hs).resolve_right fun hs => ?_
      rw [howner s hs] at hid
      cases hid
    obtain ⟨a, ha, rfl⟩ := List.mem_map.mp (owner?_of_mem hnamed hentries hsteps hid)
    obtain ⟨add, configure, hhandled⟩ :=
      handled_actions_append hnamed hids hentries hnodup hfresh howner h a ha
    have hown : s = add ∨ s = configure := by
      have hmem : s ∈ ownedBy (steps ++ last) a.id := List.mem_filter.mpr ⟨hs, by simp [hid]⟩
      simpa [hhandled.owned] using hmem
    rcases hown with rfl | rfl
    · exact hhandled.added
    · simp [hhandled.configures, configuration_ne, hid] at hkind

end

end

end MarketingFlow.Plan
