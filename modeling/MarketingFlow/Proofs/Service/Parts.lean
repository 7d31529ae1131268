import MarketingFlow.Proofs.Interaction.Habits
import MarketingFlow.Proofs.Service.Lookups
import MarketingFlow.Service.Creation

/-!
# The parts of a build

A habit of all calls that a creator makes under retry, and of the search for templates, is a habit
of the build and of its stages. So is a local habit that the look-ups and the preparation of a page
have as well.
-/

namespace MarketingFlow

variable {σ τ α β : Type} {H : Task.Habit}

/-! ## Look-ups in directories -/

namespace Directory

variable {loader : Task σ Json}

theorem has_alone_ask {c : Directory.Call} (hc : c ≠ .load) : H.Has (alone loader (ask c)) := by
  cases c with
  | load => exact absurd rfl hc
  | sleep seconds => exact H.sleep seconds
  | log level text => exact H.log level text
  | _ => exact H.silent fun _ => ⟨_, rfl⟩

theorem has_alone_pure (r : Except Failure α) : H.Has (alone loader (ExceptT.mk (pure r))) := by
  rw [alone_pure]
  exact H.has_ofExcept r

theorem has_alone_bind {l : LookupM α} {f : α → LookupM β} (h : H.Has (alone loader l))
    (hf : ∀ a, H.Has (alone loader (f a))) : H.Has (alone loader (l >>= f)) := by
  rw [alone_bind]
  exact H.bind h hf

theorem has_fill (entries : List Json) : H.Has (alone loader (fill entries)) := by
  induction entries with
  | nil => exact has_alone_pure (.ok ())
  | cons entry rest ih =>
    refine has_alone_bind (has_alone_ask (by simp)) fun d => ?_
    refine has_alone_bind (has_alone_pure _) fun table => ?_
    exact has_alone_bind (has_alone_ask (by simp)) fun _ => ih

variable {p : Profile} (hload : H.Has (alone loader (load p)))

include hload

theorem has_loadIfNeeded : H.Has (alone loader (loadIfNeeded p)) := by
  rw [loadIfNeeded, run_bind_eq]
  refine has_alone_bind (has_alone_ask (by simp)) fun d => ?_
  split
  · exact has_alone_pure (.ok ())
  · refine has_alone_bind (has_alone_ask (by simp)) fun _ => ?_
    refine has_alone_bind (has_alone_bind hload fun _ => has_alone_pure _) fun entries => ?_
    refine has_alone_bind (has_fill entries) fun _ => ?_
    refine has_alone_bind (has_alone_ask (by simp)) fun d => ?_
    exact has_alone_bind (has_alone_ask (by simp)) fun _ => has_alone_ask (by simp)

theorem has_ensureLoaded : H.Has (alone loader (ensureLoaded p)) := by
  rw [ensureLoaded]
  refine has_alone_bind (has_alone_ask (by simp)) fun _ => ?_
  refine has_alone_bind ?_ fun r => ?_
  · rw [alone_result]
    exact H.result (has_loadIfNeeded hload)
  · exact has_alone_bind (has_alone_ask (by simp)) fun _ => has_alone_pure r

theorem has_names : H.Has (alone loader (names p)) := by
  rw [names]
  refine has_alone_bind (has_ensureLoaded hload) fun _ => ?_
  exact has_alone_bind (has_alone_ask (by simp)) fun d => has_alone_pure (.ok _)

theorem has_find (name : Json) : H.Has (alone loader (find p name)) := by
  rw [find]
  refine has_alone_bind (has_ensureLoaded hload) fun _ => ?_
  refine has_alone_bind (has_alone_ask (by simp)) fun d => ?_
  refine has_alone_bind (has_alone_pure _) fun key => ?_
  split
  · exact has_alone_pure (.ok _)
  · refine has_alone_bind (has_alone_pure _) fun wanted => ?_
    split
    · exact has_alone_pure (.ok _)
    · refine has_alone_bind (has_alone_pure _) fun found => ?_
      split
      · exact has_alone_bind (has_alone_ask (by simp)) fun _ => has_alone_pure (.ok _)
      · exact has_alone_bind (has_alone_ask (by simp)) fun _ => has_alone_pure (.ok _)

end Directory

/-- All look-ups of a service of names have the habit. -/
structure NameService.Follows (s : NameService σ) (H : Task.Habit) : Prop where
  findMetric : ∀ name, H.Has (s.findMetric name)
  findList : ∀ name, H.Has (s.findList name)
  metricNames : H.Has s.metricNames
  listNames : H.Has s.listNames

namespace NameService

theorem Follows.within {s : NameService σ} (h : s.Follows H) (part : τ → σ)
    (replace : τ → σ → τ) : (s.within part replace).Follows H :=
  ⟨fun name => H.within (h.findMetric name), fun name => H.within (h.findList name),
    H.within h.metricNames, H.within h.listNames⟩

/-- All look-ups of a service of names have the local habit. -/
structure Keeps (s : NameService σ) (L : Task.LocalHabit σ) : Prop where
  findMetric : ∀ name, L.Has (s.findMetric name)
  findList : ∀ name, L.Has (s.findList name)
  metricNames : L.Has s.metricNames
  listNames : L.Has s.listNames

theorem Follows.keeps {s : NameService σ} (h : s.Follows H) : s.Keeps (H.on σ) :=
  ⟨h.findMetric, h.findList, h.metricNames, h.listNames⟩

theorem has_inMetrics {l : Task (Directory × Unit) α} (h : H.Has l) : H.Has (inMetrics l) :=
  H.within h

theorem has_inLists {l : Task (Directory × Unit) α} (h : H.Has l) : H.Has (inLists l) :=
  H.within h

/-- Loads under retry are all there is to look-ups. -/
theorem follows_ofLoaders {metrics lists : Task Unit Json} {o : RetryOptions Number}
    (hmetrics : H.Retries o metrics) (hlists : H.Retries o lists) :
    (ofLoaders metrics lists (some o)).Follows H := by
  have hload : ∀ {loader : Task Unit Json} kind, H.Retries o loader →
      H.Has (Directory.alone loader (Directory.load ⟨kind, some o⟩)) := by
    intro loader kind h
    rw [Directory.alone_load]
    exact h _ _ _
  exact {
    findMetric := fun name => has_inMetrics (Directory.has_find (hload "metric" hmetrics) name)
    findList := fun name => has_inLists (Directory.has_find (hload "list" hlists) name)
    metricNames := has_inMetrics (Directory.has_names (hload "metric" hmetrics))
    listNames := has_inLists (Directory.has_names (hload "list" hlists)) }

end NameService

/-! ## Stages of a build -/

namespace Email.Uploads

variable {u : Uploads σ} (h : ∀ path, H.Retries u.retry (u.uploader path))

include h

theorem has_upload (path : String) : H.Has (u.upload path) := by
  unfold upload pause
  refine H.bind H.has_get fun _ => ?_
  split
  · exact H.has_pure _
  · refine H.bind (h path _ _ _) fun _ => ?_
    grind

theorem has_uploadAll (paths : List String) : H.Has (u.uploadAll paths) := by
  induction paths with
  | nil =>
    unfold uploadAll
    grind
  | cons path rest ih =>
    unfold uploadAll
    refine H.bind (H.result (has_upload h path)) fun _ => ?_
    grind

theorem has_prepare (content : Json) : H.Has (u.prepare content) := by
  unfold prepare
  refine H.bind (H.has_ofExcept _) fun _ => H.bind (has_uploadAll h _) fun _ => ?_
  grind

end Email.Uploads

namespace Payload

variable {L : Task.LocalHabit σ}

theorem has_compileActions (settings : Option Settings) (sender : Sender)
    (templates : TemplateIds) (actions : List Action) :
    L.Has (compileActions settings sender templates actions) := by
  induction actions with
  | nil =>
    unfold compileActions
    grind
  | cons a rest ih =>
    unfold compileActions
    grind

theorem has_lookupId {find : Json → Task σ Json} {names : Task σ (List Json)}
    (hfind : ∀ name, L.Has (find name)) (hnames : L.Has names) (kind : String) (name : Json) :
    L.Has (lookupId kind name (some (find, names))) := by
  unfold lookupId
  grind

theorem has_resolveTrigger {s : NameService σ} (h : s.Keeps L) (trigger : Option Trigger) :
    L.Has (resolveTrigger (some s) trigger) := by
  have hmetric := has_lookupId h.findMetric h.metricNames "metric"
  have hlist := has_lookupId h.findList h.listNames "list"
  unfold resolveTrigger
  simp only [Option.map_some]
  grind

theorem has_ofFlow {s : NameService σ} (h : s.Keeps L) (f : Flow) (sender : Sender)
    (templates : TemplateIds) : L.Has (ofFlow f (some s) sender templates) := by
  unfold ofFlow
  refine L.bind (L.has_ofExcept _) fun _ => L.bind (has_compileActions _ _ _ _) fun _ => ?_
  refine L.bind (has_resolveTrigger h _) fun _ => ?_
  grind

end Payload

namespace Creator

variable {k : Creator} {L : Task.LocalHabit Memory}

/-- All calls under retry but the first and the creation of the flow have the habit, and the search
for a template has it too. -/
structure Follows (k : Creator) (H : Task.Habit) : Prop where
  image : ∀ path, H.Retries Email.Uploads.standardRetry
    (k.client.imageFromFile (.str path) .null : Task Unit Json)
  metrics : H.Retries directoryRetry (do return .arr (← k.client.metrics) : Task Unit Json)
  lists : H.Retries directoryRetry (do return .arr (← k.client.lists) : Task Unit Json)
  createTemplate : ∀ name html label n, H.Has (call (k.client.createTemplate name html) label n)
  updateTemplate : ∀ id html name label n,
    H.Has (call (k.client.updateTemplate id html name) label n)
  flowActions : ∀ id label n, H.Has (call (k.client.flowActions id) label n)
  messages : ∀ id label n, H.Has (call (k.client.flowActionMessages id) label n)
  template : ∀ id, H.Has (k.client.templateForMessage id : Work Json)

/-- The preparation of a page, the look-ups and the same calls have the local habit. -/
structure Keeps (k : Creator) (L : Task.LocalHabit Memory) : Prop where
  prepare : ∀ content, L.Has (k.prepare content)
  names : k.names.Keeps L
  createTemplate : ∀ name html label n, L.Has (call (k.client.createTemplate name html) label n)
  updateTemplate : ∀ id html name label n,
    L.Has (call (k.client.updateTemplate id html name) label n)
  flowActions : ∀ id label n, L.Has (call (k.client.flowActions id) label n)
  messages : ∀ id label n, L.Has (call (k.client.flowActionMessages id) label n)
  template : ∀ id, L.Has (k.client.templateForMessage id)

theorem Follows.keeps (h : k.Follows H) : k.Keeps (H.on Memory) where
  prepare content := H.within (Email.Uploads.has_prepare h.image content)
  names := ((NameService.follows_ofLoaders h.metrics h.lists).within _ _).keeps
  createTemplate := h.createTemplate
  updateTemplate := h.updateTemplate
  flowActions := h.flowActions
  messages := h.messages
  template := h.template

@[grind ←] theorem has_pause : L.Has k.pause := by
  unfold pause
  grind

theorem has_fail (r : BuildResult) (e : Failure) : L.Has (fail r e) := by
  unfold fail
  grind

variable (hk : k.Keeps L)

include hk

theorem has_precreateEach (letters : List Letter) (done : Precreation) :
    L.Has (k.precreateEach letters done) := by
  induction letters generalizing done with
  | nil =>
    unfold precreateEach
    grind
  | cons letter rest ih =>
    unfold precreateEach
    refine L.bind (hk.prepare _) fun _ => L.bind (L.result (hk.createTemplate _ _ _ _)) ?_
    grind

theorem has_precreate (f : Flow) : L.Has (k.precreate f) := by
  have heach := has_precreateEach hk
  unfold precreate
  grind

theorem has_applyOne (name : String) (remoteId html : Json) :
    L.Has (k.applyOne name remoteId html) := by
  have hupdate : ∀ id editor, L.Has (applyOne.update k name html id editor) := by
    intro id editor
    unfold applyOne.update
    refine L.bind (L.result (hk.updateTemplate _ _ _ _ _)) fun _ => ?_
    grind
  have hcreate := hk.createTemplate
  have htemplate := hk.template
  unfold applyOne
  refine L.bind (hk.messages _ _ _) fun _ => L.bind (L.has_ofExcept _) fun first => ?_
  grind

theorem has_applyEach (pages : Members) (pairs : List (Action × Json)) :
    L.Has (k.applyEach pages pairs) := by
  have hgiveUp : ∀ name f, L.Has (applyEach.giveUp name f) := by
    intro name f
    unfold applyEach.giveUp
    grind
  have happly := has_applyOne hk
  induction pairs with
  | nil =>
    unfold applyEach
    grind
  | cons pair rest ih =>
    unfold applyEach
    dsimp only
    split
    · exact ih
    · grind

theorem has_applyContent (flowId : Json) (f : Flow) (pages : Members) :
    L.Has (k.applyContent flowId f pages) := by
  have hactions := hk.flowActions
  have happly := has_applyEach hk
  unfold applyContent
  grind

theorem has_pass (f : Flow) (flowId : Json) (url : Option String) (pending : Members) :
    L.Has (complete.pass k f flowId url pending) := by
  have happly := has_applyContent hk
  unfold complete.pass
  grind

theorem has_complete (f : Flow) (r : BuildResult) (prepared : Precreation) (flowId : Json) :
    L.Has (k.complete f r prepared flowId) := by
  have hpass := has_pass hk
  unfold complete
  grind

theorem has_build (hping : ∀ label n, L.Has (call k.client.ping label n))
    (hcreate : ∀ payload label n, L.Has (call (k.client.createFlow payload) label n)) (f : Flow) :
    L.Has (k.build f) := by
  unfold build
  refine L.bind (L.log _ _) fun _ => ?_
  cases Payload.checkCapabilities f with
  | error e => exact has_fail _ e
  | ok =>
    refine L.bind (L.result (hping _ _)) ?_
    rintro (e | ⟨⟩)
    · grind [has_fail]
    · refine L.bind (L.result (has_precreate hk f)) ?_
      rintro (e | prepared)
      · exact has_fail _ e
      · refine L.bind (L.result (Payload.has_ofFlow hk.names f _ _)) ?_
        rintro (e | creation)
        · exact has_fail _ e
        · refine L.bind (L.result (L.bind (hcreate _ _ _) fun _ => L.has_ofExcept _)) ?_
          rintro (e | flowId)
          · exact has_fail _ e
          · exact has_complete hk f _ prepared flowId

end Creator

end MarketingFlow
