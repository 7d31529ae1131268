import MarketingFlow.Proofs.Flow.Reachability
import MarketingFlow.Proofs.Flow.Validity
import MarketingFlow.Proofs.Interaction.Replies
import MarketingFlow.Proofs.Service.Compilation

/-!
# What can be created

Before a build a flow is looked through by the types of its actions, in the order of definition. The
compiler finds out for itself what it cannot make, in the order of traversal. Both come to the same
verdict: a traversal leaves no action out. Only the action that is blamed may differ.
-/

namespace MarketingFlow

open Outcome

namespace Flow

/-! ## Nothing is left out -/

theorem perm_cons_without {pool : List Action} {a : Action} (ha : a ∈ pool)
    (hids : (pool.map Action.id).Nodup) : (a :: without pool a).Perm pool := by
  obtain ⟨before, after, rfl⟩ := List.append_of_mem ha
  rw [List.map_append, List.map_cons, List.nodup_middle, List.nodup_cons, ← List.map_append] at hids
  have hothers : ∀ b ∈ before ++ after, (b.id != a.id) = true := by
    intro b hb
    apply bne_iff_ne.mpr
    intro hid
    apply hids.1
    rw [← hid]
    exact List.mem_map_of_mem hb
  have hwithout : without (before ++ a :: after) a = before ++ after := by
    rw [without, List.filter_append, List.filter_cons_of_neg (by simp), ← List.filter_append]
    exact List.filter_eq_self.mpr hothers
  rw [hwithout]
  exact List.perm_middle.symm

theorem perm_of_walk {pool : List Action} {stack : List Json} {emitted left : List Action}
    (h : walk pool stack = .ok (emitted, left)) (hids : (pool.map Action.id).Nodup) :
    (emitted ++ left).Perm pool := by
  induction pool, stack using walk.induct generalizing emitted left with
  | case1 pool =>
    rw [walk_nil] at h
    cases h
    exact .refl _
  | case2 pool target rest ihRest ihFound =>
    cases hkey : target.isKey with
    | false =>
      rw [walk_cons_notKey hkey] at h
      cases h
    | true =>
      cases hfound : pool.find? (Action.namedBy target) with
      | none =>
        rw [walk_cons_absent hkey hfound] at h
        exact ihRest h hids
      | some a =>
        rw [walk_cons_present hkey hfound] at h
        obtain ⟨⟨more, left⟩, hmore, h⟩ := bind_eq_ok_iff.mp h
        cases h
        have hperm := perm_cons_without (List.mem_of_find?_eq_some hfound) hids
        have hrest : ((without pool a).map Action.id).Nodup :=
          (List.nodup_cons.mp ((hperm.map Action.id).nodup_iff.mpr hids)).2
        exact ((ihFound target a hfound hmore hrest).cons a).trans hperm

theorem firstOfEach_of_nodup {pool : List Action} (hids : (pool.map Action.id).Nodup) :
    firstOfEach pool = pool := by
  induction pool with
  | nil => rw [firstOfEach]
  | cons a rest ih =>
    obtain ⟨hfresh, hrest⟩ := List.nodup_cons.mp hids
    have hwithout : without rest a = rest := by
      apply List.filter_eq_self.mpr
      intro b hb
      apply bne_iff_ne.mpr
      intro hid
      exact hfresh (hid ▸ List.mem_map_of_mem hb)
    rw [firstOfEach, hwithout, ih hrest]

/-- Of a flow whose ids are distinct, a traversal that comes to an end has all actions. -/
theorem perm_of_traverse {f : Flow} {ordered : List Action} (h : f.traverse = .ok ordered)
    (hids : f.ids.Nodup) : ordered.Perm f.actions := by
  rw [traverse] at h
  obtain ⟨⟨emitted, left⟩, hwalk, h⟩ := bind_eq_ok_iff.mp h
  cases h
  have hperm := perm_of_walk hwalk hids
  have hleft : (left.map Action.id).Nodup := by
    have hall : ((emitted ++ left).map Action.id).Nodup := (hperm.map Action.id).nodup_iff.mpr hids
    rw [List.map_append] at hall
    exact hall.of_append_right
  rwa [firstOfEach_of_nodup hleft]

end Flow

theorem Task.ofExcept_ok_bind {σ α β : Type} (a : α) (f : α → Task σ β) :
    (Task.ofExcept (.ok a) >>= f) = f a := rfl

namespace Payload

/-! ## Types that can be created -/

/-- The types of the actions that the service can create. -/
def supportedTypes : List String :=
  ["time-delay", "send-email", "send-sms", "conditional-split"]

/-- Of an action of a document, its type says whether it can be created. -/
theorem isSupported_ofJson (v : Json) :
    isSupported (Action.ofJson v).work = supportedTypes.contains (Action.ofJson v).typeName := by
  cases v with
  | obj ms =>
    change isSupported (Action.workOfMembers (Members.typeText ms) ms) =
      supportedTypes.contains (Action.workOfMembers (Members.typeText ms) ms).typeName
    unfold Action.workOfMembers
    split
    iterate 5 simp [isSupported, Work.typeName, supportedTypes]
    simp_all [isSupported, Work.typeName, supportedTypes]
  | _ => simp [Action.ofJson, isSupported, Action.typeName, Work.typeName, supportedTypes]

/-- The first action of a list whose type cannot be created. -/
def IsFirstUnsupported (actions : List Action) (a : Action) : Prop :=
  a.typeName ∉ supportedTypes ∧ ∃ before after, actions = before ++ a :: after ∧
    ∀ b ∈ before, b.typeName ∈ supportedTypes

theorem exists_isFirstUnsupported {actions : List Action}
    (h : ∃ a ∈ actions, a.typeName ∉ supportedTypes) :
    ∃ a, IsFirstUnsupported actions a := by
  obtain ⟨a, ha, htype⟩ := h
  have hfound : (actions.find? fun a => a.typeName ∉ supportedTypes).isSome = true :=
    List.find?_isSome.mpr ⟨a, ha, by simpa using htype⟩
  obtain ⟨b, hb⟩ := Option.isSome_iff_exists.mp hfound
  obtain ⟨hb, before, after, hactions, hbefore⟩ := List.find?_eq_some_iff_append.mp hb
  exact ⟨b, by simpa using hb, before, after, hactions, by simpa using hbefore⟩

theorem IsFirstUnsupported.mem {actions : List Action} {a : Action}
    (h : IsFirstUnsupported actions a) : a ∈ actions := by
  obtain ⟨-, before, after, rfl, -⟩ := h
  simp

theorem unsupported_cause (a : Action) :
    ∃ text, (unsupported a).cause = .capability text (some a.id) "api" :=
  ⟨_, rfl⟩

section

variable {f : Flow}
  (hread : ∀ a ∈ f.actions, isSupported a.work = supportedTypes.contains a.typeName)

include hread

theorem checkCapabilities_of_first {a : Action} (ha : IsFirstUnsupported f.actions a) :
    checkCapabilities f = .error (unsupported a) := by
  obtain ⟨htype, before, after, hactions, hbefore⟩ := ha
  have hfound : (f.actions.find? fun a => !isSupported a.work) = some a := by
    apply List.find?_eq_some_iff_append.mpr
    constructor
    · rw [hread a (by simp [hactions])]
      simpa using htype
    · refine ⟨before, after, hactions, fun b hb => ?_⟩
      rw [hread b (by simp [hactions, hb])]
      simpa using hbefore b hb
  rw [checkCapabilities, hfound]

theorem checkCapabilities_eq_error_iff :
    (∃ e, checkCapabilities f = .error e) ↔ ∃ a ∈ f.actions, a.typeName ∉ supportedTypes := by
  constructor
  · rintro ⟨e, he⟩
    by_contra hall
    push Not at hall
    have hnone : (f.actions.find? fun a => !isSupported a.work) = none := by
      apply List.find?_eq_none.mpr
      intro a ha
      rw [hread a ha]
      simpa using hall a ha
    rw [checkCapabilities, hnone] at he
    cases he
  · intro h
    obtain ⟨a, ha⟩ := exists_isFirstUnsupported h
    exact ⟨_, checkCapabilities_of_first hread ha⟩

end

/-! ## The compiler -/

section

variable (settings : Option Settings) (sender : Sender) (templates : TemplateIds)

theorem compileAction_of_unsupported {a : Action} (h : isSupported a.work = false) :
    compileAction settings sender templates a = .error (unsupported a) := by
  obtain ⟨id, work⟩ := a
  cases work with
  | variants v => rfl
  | unknown type => rfl
  | foreign v => rfl
  | _ => cases h

theorem compileAction_of_supported {a : Action} (h : isSupported a.work = true)
    (hsplit : ∀ s, a.work = .split s → s.isReadable = true) :
    ∃ c, compileAction settings sender templates a = .ok c := by
  rcases compileAction_cases settings sender templates a with ⟨-, hc⟩ | ⟨hcompiles, -⟩
  · exact hc
  · rw [Work.compiles.eq_def] at hcompiles
    split at hcompiles
    next s hs =>
      rw [hsplit s hs] at hcompiles
      cases hcompiles
    next =>
      rw [h] at hcompiles
      cases hcompiles

theorem compileAction_eq_capability_iff {a : Action}
    (htype : isSupported a.work = supportedTypes.contains a.typeName)
    (hsplit : ∀ s, a.work = .split s → s.isReadable = true) :
    (∃ e text, compileAction settings sender templates a = .error e ∧
      e.cause = .capability text (some a.id) "api") ↔ a.typeName ∉ supportedTypes := by
  constructor
  · rintro ⟨e, -, he, -⟩ hmem
    obtain ⟨c, hc⟩ := compileAction_of_supported settings sender templates
      (htype.trans (by simpa using hmem)) hsplit
    rw [hc] at he
    cases he
  · intro hmem
    obtain ⟨text, htext⟩ := unsupported_cause a
    exact ⟨_, text, compileAction_of_unsupported settings sender templates
      (htype.trans (by simpa using hmem)), htext⟩

/-- The actions before one that cannot be compiled leave warnings, and then there is an error. -/
theorem compileActions_append {before : List Action} (after : List Action) {b : Action}
    {e : Failure}
    (hbefore : ∀ a ∈ before, ∃ c, compileAction settings sender templates a = .ok c)
    (hb : compileAction settings sender templates b = .error e) :
    ∃ texts : List String, ∀ σ : Type,
      (compileActions settings sender templates (before ++ b :: after) : Task σ (List Compiled)) =
        texts.forM (Task.log .warning ·) >>= fun _ => throw e := by
  induction before with
  | nil =>
    refine ⟨[], fun σ => ?_⟩
    rw [List.nil_append, compileActions, hb]
    rfl
  | cons a rest ih =>
    obtain ⟨⟨c, hc⟩, hrest⟩ := List.forall_mem_cons.mp hbefore
    obtain ⟨texts, htexts⟩ := ih hrest
    refine ⟨c.journal?.toList ++ texts, fun σ => ?_⟩
    have hlater : (do
        let later ← (texts.forM (Task.log .warning ·) >>= fun _ => throw e : Task σ (List Compiled))
        return c :: later) = (texts.forM (Task.log .warning ·) >>= fun _ => throw e) := by
      rw [bind_assoc]
      rfl
    rw [List.cons_append, compileActions, hc, Task.ofExcept_ok_bind, htexts]
    cases c.journal? with
    | none => exact hlater
    | some text =>
      calc
        _ = Task.log .warning text >>= fun _ =>
            texts.forM (Task.log .warning ·) >>= fun _ => throw e :=
          congrArg (fun later => Task.log .warning text >>= fun _ => later) hlater
        _ = _ := (bind_assoc _ _ _).symm

/-- What is done for a flow with an action that cannot be created. -/
theorem run_ofFlow_iff {f : Flow} {before after : List Action} {b : Action} {e : Failure}
    (ht : f.traverse = .ok (before ++ b :: after))
    (hbefore : ∀ a ∈ before, ∃ c, compileAction f.settings sender templates a = .ok c)
    (hb : compileAction f.settings sender templates b = .error e) :
    ∃ texts : List String, ∀ (σ : Type) (service : Option (NameService σ)) (s : σ)
      (u : List (Event World)) (r : Except Failure Creation) (s' : σ),
      (ofFlow f service sender templates).Run s u r s' ↔
        u = Task.messages .warning texts ∧ r = .error e ∧ s' = s := by
  obtain ⟨texts, htexts⟩ := compileActions_append f.settings sender templates after hbefore hb
  refine ⟨texts, fun σ service s u r s' => ?_⟩
  have hflow : ofFlow f service sender templates =
      (texts.forM (Task.log .warning ·) >>= fun _ => throw e) := by
    rw [ofFlow, ht, Task.ofExcept_ok_bind, htexts, bind_assoc]
    rfl
  rw [hflow]
  constructor
  · intro hrun
    rcases Task.run_bind hrun with ⟨v, w, a, s₁, rfl, hlogs, hrest⟩ | ⟨e, rfl, hlogs⟩
    · obtain ⟨rfl, -, rfl⟩ := Task.eq_of_run_logs hlogs
      obtain ⟨rfl, rfl, rfl⟩ := Task.run_ofExcept hrest
      exact ⟨List.append_nil _, rfl, rfl⟩
    · obtain ⟨-, ⟨⟩, -⟩ := Task.eq_of_run_logs hlogs
  · rintro ⟨rfl, rfl, rfl⟩
    rw [← List.append_nil (Task.messages .warning texts)]
    exact Task.run_bind_ok (Task.run_logs .warning texts s') (.here _)

end

/-- The verdict on a flow before a build is that of the compiler, unless a compilation trips over
what it cannot read. Where an action cannot be created, the one blames the first in the order of
definition and the other the first in the order of traversal, and the compiler has asked nothing of
the directories by then, whatever they are: all it leaves are warnings. -/
theorem capabilities_agree {document : Json} {f : Flow} (hread : Flow.ofJson document = .ok f)
    (hids : f.ids.Nodup) {ordered : List Action} (ht : f.traverse = .ok ordered)
    (hsplits : ∀ a ∈ f.actions, ∀ s, a.work = .split s → s.isReadable = true) (sender : Sender)
    (templates : TemplateIds) :
    ((∃ e, checkCapabilities f = .error e) ↔ ∃ a ∈ ordered, ∃ e text,
      compileAction f.settings sender templates a = .error e ∧
        e.cause = .capability text (some a.id) "api") ∧
    ∀ e, checkCapabilities f = .error e → ∃ a b text text' texts,
      IsFirstUnsupported f.actions a ∧ e.cause = .capability text (some a.id) "api" ∧
      IsFirstUnsupported ordered b ∧
      (unsupported b).cause = .capability text' (some b.id) "api" ∧
      ∀ (σ : Type) (service : Option (NameService σ)) (s : σ) (u : List (Event World))
        (r : Except Failure Creation) (s' : σ),
        (ofFlow f service sender templates).Run s u r s' ↔
          u = Task.messages .warning texts ∧ r = .error (unsupported b) ∧ s' = s := by
  have hperm := Flow.perm_of_traverse ht hids
  have htypes : ∀ a ∈ f.actions, isSupported a.work = supportedTypes.contains a.typeName := by
    intro a ha
    obtain ⟨v, rfl⟩ := Flow.mem_actions_ofJson hread ha
    exact isSupported_ofJson v
  have htypes' : ∀ a ∈ ordered, isSupported a.work = supportedTypes.contains a.typeName :=
    fun a ha => htypes a (hperm.mem_iff.mp ha)
  have hsplits' : ∀ a ∈ ordered, ∀ s, a.work = .split s → s.isReadable = true :=
    fun a ha => hsplits a (hperm.mem_iff.mp ha)
  constructor
  · rw [checkCapabilities_eq_error_iff htypes]
    constructor
    · rintro ⟨a, ha, hmem⟩
      have ha' := hperm.mem_iff.mpr ha
      exact ⟨a, ha', (compileAction_eq_capability_iff f.settings sender templates (htypes' a ha')
        (hsplits' a ha')).mpr hmem⟩
    · rintro ⟨a, ha, h⟩
      exact ⟨a, hperm.mem_iff.mp ha, (compileAction_eq_capability_iff f.settings sender templates
        (htypes' a ha) (hsplits' a ha)).mp h⟩
  · intro e he
    obtain ⟨x, hx, hmem⟩ := (checkCapabilities_eq_error_iff htypes).mp ⟨e, he⟩
    obtain ⟨a, ha⟩ := exists_isFirstUnsupported ⟨x, hx, hmem⟩
    obtain ⟨b, hb⟩ := exists_isFirstUnsupported ⟨x, hperm.mem_iff.mpr hx, hmem⟩
    rw [checkCapabilities_of_first htypes ha] at he
    cases he
    obtain ⟨text, htext⟩ := unsupported_cause a
    obtain ⟨text', htext'⟩ := unsupported_cause b
    obtain ⟨hb', before, after, rfl, hbefore⟩ := id hb
    have hgood : ∀ c ∈ before, ∃ compiled,
        compileAction f.settings sender templates c = .ok compiled := by
      intro c hc
      have hc' : c ∈ before ++ b :: after := List.mem_append_left _ hc
      apply compileAction_of_supported f.settings sender templates _ (hsplits' c hc')
      rw [htypes' c hc']
      simpa using hbefore c hc
    have hbad : compileAction f.settings sender templates b = .error (unsupported b) := by
      apply compileAction_of_unsupported
      rw [htypes' b hb.mem]
      simpa using hb'
    obtain ⟨texts, hruns⟩ := run_ofFlow_iff sender templates ht hgood hbad
    exact ⟨a, b, text, text', texts, ha, htext, hb, htext', hruns⟩

namespace Detour

def push : Action := ⟨"push", .unknown "send-push"⟩

def wait : Action := ⟨"wait", .delay ⟨.int 1, .str "days", .str "halves"⟩⟩

def halves : Action := ⟨"halves", .variants ⟨.null, .null, .null, .str "push", .null⟩⟩

/-- A flow whose first action comes last in the traversal. -/
def flow : Flow :=
  { name := .str "Detour"
    trigger := none
    actions := [push, wait, halves]
    entry := .str "wait"
    profileFilter := none
    settings := none
    tags := [] }

theorem traverse_flow : flow.traverse = .ok [wait, halves, push] := by
  cbv

end Detour

theorem capabilities_detour :
    (∃ e text, checkCapabilities Detour.flow = .error e ∧
      e.cause = .capability text (some "push") "api") ∧
    ∃ b texts, b.id = "halves" ∧
      (ofFlow Detour.flow (none : Option (NameService Unit)) (.ofOptional .null .null) []).Run ()
        (Task.messages .warning texts) (.error (unsupported b)) () := by
  have hsplits : ∀ a ∈ Detour.flow.actions, ∀ s, a.work = .split s → s.isReadable = true := by
    simp [Detour.flow, Detour.push, Detour.wait, Detour.halves]
  have hread : Flow.ofJson Detour.flow.toJson = .ok Detour.flow := rfl
  obtain ⟨-, hblamed⟩ := capabilities_agree hread (by decide) Detour.traverse_flow hsplits
    (.ofOptional .null .null) []
  have hcheck : checkCapabilities Detour.flow = .error (unsupported Detour.push) := rfl
  obtain ⟨a, b, text, -, texts, ha, he, hb, -, hruns⟩ := hblamed _ hcheck
  refine ⟨⟨_, _, hcheck, rfl⟩, b, texts, ?_, (hruns Unit none () _ _ _).mpr ⟨rfl, rfl, rfl⟩⟩
  obtain ⟨hmem, before, after, hordered, hbefore⟩ := hb
  match before, hordered, hbefore with
  | [], hordered, _ =>
    cases hordered
    exact absurd (by decide) hmem
  | [_], hordered, _ =>
    cases hordered
    rfl
  | _ :: x :: _, hordered, hbefore =>
    have hx : x = Detour.halves := by
      simp only [List.cons_append, List.cons.injEq] at hordered
      exact hordered.2.1.symm
    exact absurd (hbefore x (by simp)) (by rw [hx]; decide)

end Payload

end MarketingFlow
