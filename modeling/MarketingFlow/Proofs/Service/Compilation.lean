import MarketingFlow.Plan.OfFlow
import MarketingFlow.Proofs.Flow.ValidGraph
import MarketingFlow.Proofs.Service.Directories
import MarketingFlow.Proofs.Service.Documents
import MarketingFlow.Proofs.Service.Stages

/-!
# How compilations fail

A valid flow may still hold values of any type where validation does not look. Most of them pass
through; what a compilation trips over are a split whose condition cannot be read and a name that is
no text but has to be looked up.
-/

namespace MarketingFlow

open Outcome

/-- What the condition of the split is read from is there. -/
def Split.isReadable (s : Split) : Bool :=
  match s.condition with
  | .str "profile-marketing-consent" => s.config.isRecord
  | .str "custom" => s.config.isRecord
  | condition => condition.isKey

/-- The name by which a trigger has to be looked up. -/
def Trigger.wanted? : Trigger → Option Json
  | metric name id _ => if id.given then none else some name
  | list name id => if id.given then none else some name
  | _ => none

/-- It can be made a part of a payload. -/
def Work.compiles (w : Work) : Bool :=
  match w with
  | .split s => s.isReadable
  | w => Payload.isSupported w

namespace Json

theorem get_eq_error {v : Json} (h : v.isObject = false) (key : String) :
    v.get key = .error (Failure.misuse (.noMember v.typeName "get")) := by
  cases v with
  | obj ms => cases h
  | _ => rfl

end Json

namespace Plan

theorem triggerParams_eq_ok_iff {t : Option Trigger} :
    (∃ params, triggerParams t = .ok params) ↔
      ∀ name id filter, t = some (.metric name id filter) → name.isKey = true := by
  cases t with
  | none => simp [triggerParams]
  | some t =>
    cases t with
    | metric name id filter =>
      have hlabel : (∃ label, metricLabel name = .ok label) ↔ name.isKey = true := by
        cases name <;> simp [metricLabel, Json.asKey, Json.isKey]
      simp only [triggerParams, Trigger.pickerLabel]
      cases h : metricLabel name <;> simp_all
    | _ => simp [triggerParams, Trigger.pickerLabel]

theorem ofFlow_eq_ok_iff {f : Flow} {ordered : List Action} (ht : f.traverse = .ok ordered) :
    (∃ plan, ofFlow f = .ok plan) ↔
      ∀ name id filter, f.trigger = some (.metric name id filter) → name.isKey = true := by
  rw [← triggerParams_eq_ok_iff, ofFlow, ht]
  cases triggerParams f.trigger <;> simp

end Plan

namespace Payload

variable {σ : Type}

theorem profileFilter_cases (s : Split) :
    (s.isReadable = true ∧ ∃ x, s.profileFilter = .ok x) ∨
      (s.isReadable = false ∧ ∃ e, s.profileFilter = .error e ∧ e.isDeclared = false) := by
  obtain ⟨condition, label, config, ifTrue, ifFalse⟩ := s
  -- Two conditions read the configuration before anything else, and fail in the same way.
  have hconfig : ∀ (key : String) (f : Json → Except Failure (Json × Fidelity)),
      (∀ v, ∃ x, f v = .ok x) →
      (config.isRecord = true ∧ ∃ x, (config.orEmpty.get key >>= f) = .ok x) ∨
        (config.isRecord = false ∧
          ∃ e, (config.orEmpty.get key >>= f) = .error e ∧ e.isDeclared = false) := by
    intro key f hf
    cases hrecord : config.isRecord with
    | true =>
      rw [← Json.isObject_orEmpty] at hrecord
      rw [Json.get_eq_ok_iff.mpr ⟨hrecord, rfl⟩]
      exact .inl ⟨rfl, hf _⟩
    | false =>
      rw [← Json.isObject_orEmpty] at hrecord
      rw [Json.get_eq_error hrecord]
      exact .inr ⟨rfl, _, rfl, rfl⟩
  unfold Split.profileFilter Split.isReadable
  cases condition with
  | str kind =>
    by_cases hconsent : kind = "profile-marketing-consent"
    · subst hconsent
      exact hconfig _ _ fun v => ⟨_, rfl⟩
    by_cases hcustom : kind = "custom"
    · subst hcustom
      refine hconfig _ _ fun v => ?_
      cases v <;> exact ⟨_, rfl⟩
    · simp only [Json.asKey_str, ok_bind, Json.isKey]
      left
      cases engagementEntries.lookup kind <;> simp [hconsent, hcustom]
  | arr vs => exact .inr ⟨rfl, _, rfl, rfl⟩
  | obj ms => exact .inr ⟨rfl, _, rfl, rfl⟩
  | _ => exact .inl ⟨rfl, _, rfl⟩

theorem compileAction_cases (settings : Option Settings) (sender : Sender)
    (templates : TemplateIds) (a : Action) :
    (a.work.compiles = true ∧ ∃ c, compileAction settings sender templates a = .ok c) ∨
      (a.work.compiles = false ∧ ∃ e, compileAction settings sender templates a = .error e ∧
        e.isDeclared = !isSupported a.work) := by
  obtain ⟨id, work⟩ := a
  cases work with
  | split s =>
    rcases profileFilter_cases s with ⟨hs, x, hx⟩ | ⟨hs, e, he, hdeclared⟩
    · refine .inl ⟨hs, ?_⟩
      simp [compileAction, actionData, hx]
    · refine .inr ⟨hs, e, ?_, hdeclared⟩
      simp [compileAction, actionData, he]
  | delay d => exact .inl ⟨rfl, _, rfl⟩
  | email e => exact .inl ⟨rfl, _, rfl⟩
  | sms t => exact .inl ⟨rfl, _, rfl⟩
  | _ => exact .inr ⟨rfl, _, rfl, rfl⟩

/-- The first of the actions that cannot be made a part of a payload. -/
def firstUnfit? (actions : List Action) : Option Action :=
  actions.find? fun a => !a.work.compiles

/-- The result is a failure, and an announced one if it is for its type that the action is unfit. -/
def FailsAt (a : Action) {α : Type} (r : Except Failure α) : Prop :=
  ∃ e, r = .error e ∧ e.isDeclared = !isSupported a.work

theorem leads_compileActions {I : σ → Prop} (settings : Option Settings) (sender : Sender)
    (templates : TemplateIds) (actions : List Action) :
    (compileActions settings sender templates actions).Leads I fun r s => I s ∧
      match firstUnfit? actions with
      | none => ∃ compiled, r = .ok compiled
      | some a => FailsAt a r := by
  -- Where the first action compiles, it is up to the rest; where it does not, the rest is not
  -- compiled any more.
  induction actions with
  | nil => exact .pure fun s hs => ⟨hs, [], rfl⟩
  | cons a rest ih =>
    rw [compileActions, firstUnfit?]
    rcases compileAction_cases settings sender templates a with ⟨ha, c, hc⟩ | ⟨ha, e, he, hdeclared⟩
    · rw [hc]
      simp only [List.find?_cons, ha, Bool.not_true]
      have hrest : (do return c :: (← compileActions settings sender templates rest) :
          Task σ (List Compiled)).Leads I fun r s => I s ∧
            match firstUnfit? rest with
            | none => ∃ compiled, r = .ok compiled
            | some a => FailsAt a r := by
        refine ih.bind (fun compiled => .pure ?_) ?_
        · rintro s ⟨hs, h⟩
          refine ⟨hs, ?_⟩
          split at h
          · exact ⟨_, rfl⟩
          · obtain ⟨e, ⟨⟩, -⟩ := h
        · rintro e s ⟨hs, h⟩
          refine ⟨hs, ?_⟩
          split at h
          · obtain ⟨compiled, ⟨⟩⟩ := h
          · obtain ⟨_, ⟨⟩, he⟩ := h
            exact ⟨e, rfl, he⟩
      refine .ofExcept_bind (fun c' hc' => ?_) (by rintro e ⟨⟩)
      cases hc'
      split
      · exact .ask_bind fun _ => hrest
      · exact hrest
    · rw [he]
      simp only [List.find?_cons, ha, Bool.not_false]
      exact .throw fun s hs => ⟨hs, e, rfl, hdeclared⟩

/-! ## The trigger -/

/-- A result that is bound to be a failure when `odd` holds, and else is one of two kinds if it is a
failure at all: one as `fails` says, or one that the compiler names for its own. -/
def Settles {α : Type} (odd : Prop) (fails : Failure → Prop) (r : Except Failure α) : Prop :=
  (odd → ∃ e, r = .error e ∧ (fails e ∨ e.isDeclared = false)) ∧
    (¬ odd → Fails (fun e => fails e ∨ e.isDeclared = true) r)

theorem Settles.bind {α β : Type} {I : σ → Prop} {odd : Prop} {fails : Failure → Prop}
    {t : Task σ α} {f : α → Task σ β} (h : t.Leads I fun r _ => Settles odd fails r)
    (hf : ∀ a, (f a).Leads (fun _ => True) fun r _ => ∃ b, r = .ok b) :
    (t >>= f).Leads I fun r _ => Settles odd fails r := by
  refine Task.Leads.bind h (fun a s hodd u r s' hr => ?_) ?_
  · obtain ⟨b, rfl⟩ := hf a s trivial u r s' hr
    refine ⟨fun h => ?_, fun _ => .ok b⟩
    obtain ⟨e, ⟨⟩, -⟩ := hodd.1 h
  · rintro e s ⟨hodd, hfails⟩
    refine ⟨fun h => ?_, fun h => .error (hfails h e rfl)⟩
    obtain ⟨_, ⟨⟩, he⟩ := hodd h
    exact ⟨e, rfl, he⟩

theorem joinNames_eq_ok {names : List Json} (h : ∀ name ∈ names, name.isText = true) :
    ∃ text, joinNames names = .ok text := by
  rw [joinNames]
  refine (mapM_eq_ok_iff.mpr ?_).elim fun texts htexts =>
    ⟨_, bind_eq_ok_iff.mpr ⟨texts, htexts, rfl⟩⟩
  rintro ⟨name, i⟩ hx
  obtain ⟨s, rfl⟩ := Json.isText_iff.mp (h name (List.fst_mem_of_mem_zipIdx hx))
  exact ⟨s, rfl⟩

section

variable {I : σ → Prop} {fails : Failure → Prop}

section

variable {lookups : Option ((Json → Task σ Json) × Task σ (List Json))}
  (hfind : ∀ l ∈ lookups, ∀ name, (l.1 name).Leads I fun r s => I s ∧ Directory.Finds fails name r)
  (hnames : ∀ l ∈ lookups, l.2.Leads I fun r s => I s ∧ Directory.Tells fails r)

include hfind hnames

theorem leads_lookupId (kind : String) (name : Json) :
    (lookupId kind name lookups).Leads I fun r _ =>
      Settles (lookups.isSome = true ∧ name.isText = false) fails r := by
  obtain _ | ⟨find, names⟩ := lookups
  · exact .throw fun s _ => ⟨fun h => Bool.noConfusion h.1, fun _ => .error (.inr rfl)⟩
  rw [lookupId]
  refine (hfind _ rfl name).bind (fun found => ?_) ?_
  · cases hname : name.isText with
    | false =>
      rintro s ⟨-, -, hother⟩
      obtain ⟨e, ⟨⟩, -⟩ := hother hname
    | true =>
      have hfails : ∀ r : Except Failure Json, Fails (fun e => fails e ∨ e.isDeclared = true) r →
          Settles ((some (find, names)).isSome = true ∧ true = false) fails r :=
        fun r hr => ⟨fun h => Bool.noConfusion h.2, fun _ => hr⟩
      split
      · exact .pure fun s _ => hfails _ (.ok found)
      · refine ((hnames _ rfl).weaken fun s hs => hs.1).bind (fun available => ?_)
          fun e s he => hfails _ (.error (.inl he.2))
        refine .ofExcept_bind (fun known _ => .throw fun _ _ => hfails _ (.error (.inr rfl))) ?_
        rintro e he s ⟨-, htexts⟩
        obtain ⟨known, hknown⟩ :=
          joinNames_eq_ok fun n hn => htexts n (List.mem_of_mem_take hn)
        rw [hknown] at he
        cases he
  · rintro e s ⟨-, htext, hother⟩
    refine ⟨fun h => ?_, fun h => ?_⟩
    · obtain ⟨_, ⟨⟩, he⟩ := hother h.2
      exact ⟨e, rfl, he⟩
    · exact .error (.inl (htext (by simpa using h) e rfl))

theorem leads_idOrLookup (kind : String) (name id : Json) (f : Json → Json) :
    (do
      let id ← if id.given then pure id else lookupId kind name lookups
      return f id : Task σ Json).Leads I fun r _ =>
      Settles (lookups.isSome = true ∧
        ∃ n, (if id.given then none else some name) = some n ∧ n.isText = false) fails r := by
  cases id.given with
  | true => exact .pure fun s _ => ⟨by simp, fun _ => .ok _⟩
  | false =>
    simpa using Settles.bind (leads_lookupId hfind hnames kind name)
      fun id => .pure fun _ _ => ⟨f id, rfl⟩

end

theorem leads_resolveTrigger {service : Option (NameService σ)}
    (hservice : ∀ s ∈ service, s.Answers I fails) (t : Option Trigger) :
    (resolveTrigger service t).Leads I fun r _ =>
      Settles (service.isSome = true ∧ ∃ name, t.bind Trigger.wanted? = some name ∧
        name.isText = false) fails r := by
  have hidle : ∀ r : Except Failure Json, Fails (fun e => fails e ∨ e.isDeclared = true) r →
      Settles (service.isSome = true ∧ ∃ name : Json, none = some name ∧ name.isText = false)
        fails r :=
    fun r hr => ⟨by simp, fun _ => hr⟩
  cases t with
  | none => exact .throw fun s _ => hidle _ (.error (.inr rfl))
  | some t =>
    cases t with
    | metric name id filter =>
      have hid := @leads_idOrLookup σ I fails
        (service.map fun s => (s.findMetric, s.metricNames))
        (by simpa using fun s hs => (hservice s hs).findMetric)
        (by simpa using fun s hs => (hservice s hs).metricNames) "metric" name id
      simp only [Option.isSome_map] at hid
      exact hid _
    | list name id =>
      have hid := @leads_idOrLookup σ I fails
        (service.map fun s => (s.findList, s.listNames))
        (by simpa using fun s hs => (hservice s hs).findList)
        (by simpa using fun s hs => (hservice s hs).listNames) "list" name id
      simp only [Option.isSome_map] at hid
      exact hid _
    | date property offset => exact .pure fun s _ => hidle _ (.ok _)
    | other type => exact .throw fun s _ => hidle _ (.error (.inr rfl))

/-- What a compilation comes to: the first action that is unfit decides, then the trigger. -/
theorem leads_ofFlow {f : Flow} {ordered : List Action} (ht : f.traverse = .ok ordered)
    {service : Option (NameService σ)} (hservice : ∀ s ∈ service, s.Answers I fails)
    (sender : Sender) (templates : TemplateIds) :
    (ofFlow f service sender templates).Leads I fun r _ =>
      match firstUnfit? ordered with
      | some a => FailsAt a r
      | none =>
        Settles (service.isSome = true ∧ ∃ name, f.trigger.bind Trigger.wanted? = some name ∧
          name.isText = false) fails r := by
  rw [ofFlow, ht]
  refine .ofExcept_bind (fun actions hactions => ?_) (by rintro e ⟨⟩)
  cases hactions
  refine (leads_compileActions f.settings sender templates ordered).bind (fun compiled => ?_) ?_
  · cases hfirst : firstUnfit? ordered with
    | some a =>
      rintro s ⟨-, e, ⟨⟩, -⟩
    | none =>
      refine Task.Leads.weaken ?_ fun s hs => hs.1
      exact Settles.bind (leads_resolveTrigger hservice f.trigger) fun trigger =>
        .ask_bind fun _ => .pure fun _ _ => ⟨_, rfl⟩
  · rintro e s ⟨-, h⟩
    cases hfirst : firstUnfit? ordered with
    | none =>
      rw [hfirst] at h
      obtain ⟨compiled, ⟨⟩⟩ := h
    | some a =>
      rw [hfirst] at h
      obtain ⟨_, ⟨⟩, he⟩ := h
      exact ⟨e, rfl, he⟩

end

/-- How the compilations of a valid flow fail. A plan cannot be made if the name of the metric is no
key. A payload is not made if an action is unfit: the compiler says so, unless it is a split that
cannot be read. Else the trigger decides: where a directory has to be asked for a name that is no
text, there is a failure, and not one that the compiler names; in all other cases the compiler names
whatever fails, the loads of the directory apart. -/
theorem failures_of_valid {f : Flow} {v : Verdict} (hv : f.validate = .ok v)
    (hvalid : v.valid = true) :
    ∃ ordered, f.traverse = .ok ordered ∧
      ((∃ plan, Plan.ofFlow f = .ok plan) ↔
        ∀ name id filter, f.trigger = some (.metric name id filter) → name.isKey = true) ∧
      ∀ (L : Failure → Prop) (metrics lists : Task Unit Json)
        (retry : Option (RetryOptions Number)) (service : Option (NameService Directories))
        (sender : Sender) (templates : TemplateIds) (d d' : Directories) (t : List (Event World))
        (r : Except Failure Creation),
        (∀ e note, L e → L (e.addNote note)) →
        (metrics.Traces fun _ r => Directory.Lists L r) →
        (lists.Traces fun _ r => Directory.Lists L r) →
        (∀ s ∈ service, s = .ofLoaders metrics lists retry) → d.Textual →
        Program.Reaches ((ofFlow f service sender templates).start d) t (.done (r, d')) →
        match firstUnfit? ordered with
        | some a => ∃ e, r = .error e ∧ e.isDeclared = !isSupported a.work
        | none => Settles (service.isSome = true ∧ ∃ name,
            f.trigger.bind Trigger.wanted? = some name ∧ name.isText = false)
            (Directory.LoadFails L retry) r := by
  obtain ⟨ordered, ht, -⟩ := (Flow.linked_of_valid hv hvalid).exists_traverse
  refine ⟨ordered, ht, Plan.ofFlow_eq_ok_iff ht, ?_⟩
  intro L metrics lists retry service sender templates d d' t r hnote hmetrics hlists hservice hd hr
  refine leads_ofFlow ht (fun s hs => ?_) sender templates d hd t r d' hr
  rw [hservice s hs]
  exact NameService.answers_ofLoaders hnote hmetrics hlists retry

/-- A fork that is started by a metric with an array for its name. -/
def listed : Flow :=
  { Flow.fork with trigger := some (.metric (.arr [.str "x"]) .null none) }

theorem listed_failures : (¬ ∃ plan, Plan.ofFlow listed = .ok plan) ∧
    ∃ t e d', Program.Reaches ((ofFlow listed (some (.ofLoaders (pure (.arr [])) (pure (.arr []))
      none)) (.ofOptional .null .null) []).start .empty) t (.done (.error e, d')) ∧
      e.isDeclared = false := by
  have hvalid : listed.validate = .ok ⟨[], []⟩ := by cbv
  have htraverse : listed.traverse = Flow.fork.traverse := by cbv
  obtain ⟨ordered, hordered, hplan, hpayload⟩ := failures_of_valid hvalid rfl
  rw [htraverse, Flow.traverse_fork] at hordered
  cases hordered
  refine ⟨fun h => absurd (hplan.mp h _ _ _ rfl) (by decide), ?_⟩
  have hlast : ∃ x, (Program.record World.smooth 8 ((ofFlow listed
      (some (.ofLoaders (pure (.arr [])) (pure (.arr [])) none)) (.ofOptional .null .null)
      []).start .empty)).2.result? = some x := by
    simp only [ofFlow, htraverse, Flow.traverse_fork]
    exact ⟨_, rfl⟩
  obtain ⟨⟨r, d'⟩, hlast⟩ := hlast
  have hrun := Program.reaches_of_record hlast
  have hempty : (pure (.arr []) : Task Unit Json).Traces fun _ r =>
      Directory.Lists (fun _ => False) r :=
    .pure ⟨[], rfl, by simp⟩
  have hsettles := hpayload (fun _ => False) _ _ none _ _ _ .empty d' _ r (fun _ _ h => h) hempty
    hempty (by simp) ⟨by simp [Directories.empty, Directory.empty, Directory.Textual],
      by simp [Directories.empty, Directory.empty, Directory.Textual]⟩ hrun
  obtain ⟨e, rfl, he⟩ := hsettles.1 ⟨rfl, _, rfl, rfl⟩
  refine ⟨_, e, d', hrun, he.resolve_left ?_⟩
  rintro (h | ⟨o, ho, -⟩)
  · exact h
  · cases ho

end Payload

end MarketingFlow
