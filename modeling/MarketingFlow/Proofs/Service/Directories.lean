import MarketingFlow.Proofs.Interaction.States
import MarketingFlow.Proofs.Json.Fields
import MarketingFlow.Proofs.Outcome
import MarketingFlow.Proofs.Service.Lookups
import MarketingFlow.Service.Names

/-!
# Look-ups in directories of texts

A listing whose names are texts makes a table whose names are texts, and every text can be looked up
in such a table: nothing but a load may fail. Anything else cannot be looked up.
-/

namespace MarketingFlow

open Outcome

/-- The failures that a compiler announces: a flow that it cannot make, and a name that it cannot
resolve. -/
def Failure.isDeclared (e : Failure) : Bool :=
  match e.cause with
  | .capability _ _ _ => true
  | .resolution _ _ _ => true
  | _ => false

namespace Json

/-- An object whose name is a text, if it has one. -/
def isEntry : Json → Bool
  | obj ms => !(Members.value ms "name").given || (Members.value ms "name").isText
  | _ => false

theorem asKey_str (s : String) : (str s).asKey = .ok (str s) := rfl

theorem sameKey_of_not_isText {v w : Json} (hv : v.isText = true) (hw : w.isText = false) :
    v.sameKey w = false := by
  obtain ⟨s, rfl⟩ := isText_iff.mp hv
  cases w <;> simp_all [sameKey, same, isNaN, number?, isText]

end Json

namespace Directory

def Textual (d : Directory) : Prop :=
  ∀ entry ∈ d.table, entry.1.isText = true

/-- What comes of a load: a listing of entries, or a failure with `L`. -/
def Lists (L : Failure → Prop) : Except Failure Json → Prop
  | .ok v => ∃ entries, v = .arr entries ∧ ∀ entry ∈ entries, entry.isEntry = true
  | .error e => L e

/-- What a look-up may fail with: what its loads do, or that the pause before another one cannot be
computed. -/
def LoadFails (L : Failure → Prop) (retry : Option (RetryOptions Number)) (e : Failure) : Prop :=
  L e ∨ ∃ o ∈ retry, ∃ n : Nat, o.delayAfter n = .error e

/-- What comes of looking a name up: a text is found or not, unless a load fails; anything else
cannot be looked up. -/
def Finds (fails : Failure → Prop) (name : Json) (r : Except Failure Json) : Prop :=
  (name.isText = true → Fails fails r) ∧
    (name.isText = false → ∃ e, r = .error e ∧ (fails e ∨ e.isDeclared = false))

/-- What comes of asking for all names. -/
def Tells (fails : Failure → Prop) : Except Failure (List Json) → Prop
  | .ok names => ∀ name ∈ names, name.isText = true
  | .error e => fails e

variable {σ α β : Type} {loader : Task σ Json}

/-- A look-up by itself keeps the names texts, and `P` holds of its result. -/
def Keeps (loader : Task σ Json) (l : LookupM α) (P : Except Failure α → Prop) : Prop :=
  (alone loader l).Leads (fun s => s.1.Textual) fun r s => s.1.Textual ∧ P r

section

variable {l : LookupM α} {P : Except Failure α → Prop} {Q : Except Failure β → Prop}

theorem Keeps.mono {R : Except Failure α → Prop} (h : Keeps loader l P) (hPR : ∀ r, P r → R r) :
    Keeps loader l R :=
  Task.Leads.mono h fun r _ hr => ⟨hr.1, hPR r hr.2⟩

theorem Keeps.pure {r : Except Failure α} (h : P r) : Keeps loader (ExceptT.mk (pure r)) P :=
  Task.Leads.ofExcept fun _ hs => ⟨hs, h⟩

theorem Keeps.bind {f : α → LookupM β} (h : Keeps loader l P)
    (hok : ∀ a, P (.ok a) → Keeps loader (f a) Q) (herror : ∀ e, P (.error e) → Q (.error e)) :
    Keeps loader (l >>= f) Q := by
  rw [Keeps, alone_bind]
  refine Task.Leads.bind h ?_ fun e _ he => ⟨he.1, herror e he.2⟩
  exact fun a s hs => hok a hs.2 s hs.1

theorem Keeps.known_bind {r : Except Failure α} {f : α → LookupM β}
    (hok : ∀ a, r = .ok a → Keeps loader (f a) Q) (herror : ∀ e, r = .error e → Q (.error e)) :
    Keeps loader (ExceptT.mk (Pure.pure r) >>= f) Q := by
  cases r with
  | ok a => exact hok a rfl
  | error e => exact .pure (herror e rfl)

theorem Keeps.result (h : Keeps loader l P) :
    Keeps loader (ExceptT.lift l.run) fun r => ∃ x, r = .ok x ∧ P x := by
  rw [Keeps, alone_result, ← bind_pure (alone loader l).result]
  exact Task.Leads.result_bind h fun r => .pure fun s hs => ⟨hs.1, r, rfl, hs.2⟩

theorem Keeps.answered {c : Directory.Call} {P : Except Failure c.Answer → Prop}
    (h : ∀ s : Directory × σ, s.1.Textual →
      ∃ a s', answer loader c s = .done (a, s') ∧ s'.1.Textual ∧ P (.ok a)) :
    Keeps loader (ask c) P := by
  intro s hs u r s' hr
  obtain ⟨a, s₁, hanswer, hkept, hP⟩ := h s hs
  have hstart : (alone loader (ask c)).start s = .done (.ok a, s₁) := by
    change (answer loader c s).bind _ = _
    rw [hanswer]
    rfl
  rw [Task.Run, hstart] at hr
  obtain ⟨-, hrs⟩ := Program.Reaches.of_done hr
  cases hrs
  exact ⟨hkept, hP⟩

theorem Keeps.acquire : Keeps loader (ask .acquire) fun r => r = .ok () :=
  .answered fun s hs => ⟨(), s, rfl, hs, rfl⟩

theorem Keeps.release : Keeps loader (ask .release) fun r => r = .ok () :=
  .answered fun s hs => ⟨(), s, rfl, hs, rfl⟩

theorem Keeps.write {d : Directory} (hd : d.Textual) :
    Keeps loader (ask (.write d)) fun r => r = .ok () :=
  .answered fun s _ => ⟨(), (d, s.2), rfl, hd, rfl⟩

theorem Keeps.log (level : Level) (text : String) :
    Keeps loader (ask (.log level text)) fun r => r = .ok () := by
  intro s hs u r s' hr
  cases hr with
  | call answer hr =>
    obtain ⟨-, hrs⟩ := Program.Reaches.of_done hr
    cases hrs
    exact ⟨hs, rfl⟩

/-- After a call that only gives a sign. -/
theorem Keeps.unit_bind {l : LookupM Unit} {f : Unit → LookupM β}
    (h : Keeps loader l fun r => r = .ok ()) (hf : Keeps loader (f ()) Q) :
    Keeps loader (l >>= f) Q :=
  h.bind (fun _ _ => hf) (by rintro e ⟨⟩)

theorem Keeps.read_bind {f : Directory → LookupM β}
    (hf : ∀ d : Directory, d.Textual → Keeps loader (f d) Q) :
    Keeps loader (ask .read >>= f) Q := by
  have hread : Keeps loader (ask .read) fun r => ∃ d, r = .ok d ∧ d.Textual :=
    .answered fun s hs => ⟨s.1, s, rfl, hs, s.1, rfl, hs⟩
  refine hread.bind ?_ ?_
  · rintro d ⟨_, ⟨⟩, hd⟩
    exact hf d hd
  · rintro e ⟨_, ⟨⟩, -⟩

end

/-! ## The listing -/

theorem Textual.add {d : Directory} (h : d.Textual) {name : Json} (hname : name.isText = true)
    (id : Json) : Textual { d with table := d.table.add name id } := by
  intro entry hentry
  rw [NameTable.add] at hentry
  split at hentry
  · exact h entry hentry
  · rcases List.mem_append.mp hentry with hentry | hentry
    · exact h entry hentry
    · rw [List.mem_singleton.mp hentry]
      exact hname

theorem addEntry_eq_ok {d : Directory} (h : d.Textual) {entry : Json}
    (hentry : entry.isEntry = true) :
    ∃ table, addEntry d.table entry = .ok table ∧ Textual { d with table } := by
  cases entry with
  | obj ms =>
    simp only [addEntry, Json.get, Json.members, ok_bind, pure_eq]
    split
    next hgiven =>
      have htext : (Members.value ms "name").isText = true := by
        rw [Json.isEntry, (Bool.and_eq_true_iff.mp hgiven).1] at hentry
        exact hentry
      obtain ⟨s, hs⟩ := Json.isText_iff.mp htext
      rw [hs, Json.asKey_str]
      exact ⟨_, rfl, h.add rfl _⟩
    next => exact ⟨d.table, rfl, h⟩
  | _ => cases hentry

theorem keeps_fill {entries : List Json} (h : ∀ entry ∈ entries, entry.isEntry = true) :
    Keeps loader (fill entries) fun r => r = .ok () := by
  induction entries with
  | nil => exact .pure rfl
  | cons entry rest ih =>
    rw [fill]
    refine .read_bind fun d hd => ?_
    obtain ⟨table, htable, hkept⟩ := addEntry_eq_ok hd (h entry (.head rest))
    rw [htable]
    exact (Keeps.write hkept).unit_bind (ih fun e he => h e (.tail entry he))

/-! ## The table -/

theorem idOf?_eq_none {d : Directory} (hd : d.Textual) {name : Json} (h : name.isText = false) :
    d.table.idOf? name = none := by
  rw [NameTable.idOf?, Option.map_eq_none_iff, List.find?_eq_none]
  intro entry hentry
  rw [Json.sameKey_of_not_isText (hd entry hentry) h]
  exact Bool.false_ne_true

theorem fuzzy_eq_ok (wanted : String) {t : NameTable} (ht : ∀ entry ∈ t, entry.1.isText = true) :
    ∃ found, fuzzy wanted t = .ok found := by
  induction t with
  | nil => exact ⟨none, rfl⟩
  | cons entry rest ih =>
    obtain ⟨name, id⟩ := entry
    obtain ⟨hname, hrest⟩ := List.forall_mem_cons.mp ht
    obtain ⟨s, rfl⟩ := Json.isText_iff.mp hname
    rw [fuzzy, folded, ok_bind]
    split
    · exact ⟨some (.str s, id), rfl⟩
    · exact ih hrest

section

variable {p : Profile} {L : Failure → Prop} (hnote : ∀ e note, L e → L (e.addNote note))
  (hloader : loader.Traces fun _ r => Lists L r)

include hnote hloader

theorem keeps_load : Keeps loader (load p) (Lists (LoadFails L p.retry)) := by
  have honce : (loader.within Prod.snd fun s x => (s.1, x) : Task (Directory × σ) Json).Leads
      (fun s => s.1.Textual) fun r s => s.1.Textual ∧ Lists L r :=
    (Task.Traces.leads hloader).within (I := fun _ => True) (fun _ _ => trivial)
      fun _ _ _ hs hr => ⟨hs, hr⟩
  obtain ⟨kind, _ | o⟩ := p
  · rw [Keeps, alone_load_once]
    refine honce.mono ?_
    rintro (e | v) s ⟨hs, hr⟩
    · exact ⟨hs, .inl hr⟩
    · exact ⟨hs, hr⟩
  · rw [Keeps, alone_load]
    refine honce.retry (fun _ _ h => h) (fun _ _ h => h.1) ?_ ?_
    · exact fun e note s h => ⟨h.1, .inl (hnote e note h.2)⟩
    · exact fun _ e' s n h hdelay => ⟨h.1, .inr ⟨o, rfl, n, hdelay⟩⟩

theorem keeps_loadIfNeeded : Keeps loader (loadIfNeeded p) (Fails (LoadFails L p.retry)) := by
  rw [loadIfNeeded, run_bind_eq]
  refine .read_bind fun d hd => ?_
  split
  · exact .pure (.ok ())
  · refine (Keeps.log _ _).unit_bind ?_
    have hentries : Keeps loader (load p >>= fun v => ExceptT.mk (pure v.iterate)) fun r =>
        match r with
        | .ok entries => ∀ entry ∈ entries, Json.isEntry entry = true
        | .error e => LoadFails L p.retry e := by
      refine (keeps_load hnote hloader).bind ?_ fun _ he => he
      rintro _ ⟨entries, rfl, hentries⟩
      exact .pure hentries
    refine hentries.bind (fun entries hentries => ?_) fun e he => .error he
    refine (keeps_fill hentries).unit_bind (.read_bind fun d hd => ?_)
    refine (Keeps.write ?_).unit_bind ?_
    · exact hd
    refine (Keeps.log _ _).mono ?_
    rintro _ rfl
    exact .ok ()

theorem keeps_ensureLoaded : Keeps loader (ensureLoaded p) (Fails (LoadFails L p.retry)) := by
  rw [ensureLoaded]
  refine Keeps.acquire.unit_bind ?_
  refine (keeps_loadIfNeeded hnote hloader).result.bind ?_ ?_
  · rintro _ ⟨r, ⟨⟩, hr⟩
    exact Keeps.release.unit_bind (.pure hr)
  · rintro e ⟨_, ⟨⟩, -⟩

theorem keeps_names : Keeps loader (names p) (Tells (LoadFails L p.retry)) := by
  rw [names]
  refine (keeps_ensureLoaded hnote hloader).bind (fun _ _ => ?_) fun e he => he e rfl
  refine .read_bind fun d hd => .pure ?_
  intro name hname
  obtain ⟨entry, hentry, rfl⟩ := List.mem_map.mp hname
  exact hd entry hentry

theorem keeps_find (name : Json) :
    Keeps loader (find p name) (Finds (LoadFails L p.retry) name) := by
  rw [find, findLoaded]
  refine (keeps_ensureLoaded hnote hloader).bind (fun _ _ => ?_)
    fun e he => ⟨fun _ => .error (he e rfl), fun _ => ⟨e, rfl, .inl (he e rfl)⟩⟩
  refine .read_bind fun d hd => ?_
  -- A text is folded and compared with all names; anything else is no key or cannot be folded.
  cases htext : name.isText with
  | true =>
    obtain ⟨s, rfl⟩ := Json.isText_iff.mp htext
    obtain ⟨found, hfound⟩ := fuzzy_eq_ok (Text.lower s) hd
    have hanswer : ∀ v, Finds (LoadFails L p.retry) (.str s) (.ok v) :=
      fun v => ⟨fun _ => .ok v, by rintro ⟨⟩⟩
    have hlog : ∀ level text v, Keeps loader (do ask (.log level text); pure v)
        (Finds (LoadFails L p.retry) (.str s)) :=
      fun level text v => (Keeps.log level text).unit_bind (.pure (hanswer v))
    refine .known_bind (fun key hkey => ?_) (by rintro e ⟨⟩)
    cases hkey
    split
    · exact .pure (hanswer _)
    · refine .known_bind (fun wanted hwanted => ?_) (by rintro e ⟨⟩)
      cases hwanted
      split
      · exact .pure (hanswer _)
      · rw [hfound]
        cases found with
        | none => exact hlog _ _ _
        | some entry => exact hlog _ _ _
  | false =>
    have hfailure : ∀ e : Failure, e.isDeclared = false →
        Finds (LoadFails L p.retry) name (.error e) :=
      fun e he => ⟨fun h => absurd h (by simp [htext]), fun _ => ⟨e, rfl, .inr he⟩⟩
    refine .known_bind (fun key hkey => ?_) fun e he => hfailure e ?_
    · obtain rfl : name = key := by
        rw [Json.asKey] at hkey
        split at hkey <;> cases hkey
        rfl
      rw [idOf?_eq_none hd htext]
      refine .known_bind (fun wanted hwanted => ?_) fun e he => hfailure e ?_
      · cases name <;> cases hwanted
        cases htext
      · cases name <;> cases he
        all_goals rfl
    · rw [Json.asKey] at he
      split at he <;> cases he
      rfl

end

end Directory

namespace Directories

def Textual (d : Directories) : Prop :=
  d.metrics.Textual ∧ d.lists.Textual

end Directories

namespace NameService

/-- The look-ups of a service keep `I`, and fail as loads that fulfil `fails` do. -/
structure Answers {σ : Type} (service : NameService σ) (I : σ → Prop) (fails : Failure → Prop) :
    Prop where
  findMetric : ∀ name, (service.findMetric name).Leads I fun r s =>
    I s ∧ Directory.Finds fails name r
  findList : ∀ name, (service.findList name).Leads I fun r s =>
    I s ∧ Directory.Finds fails name r
  metricNames : service.metricNames.Leads I fun r s => I s ∧ Directory.Tells fails r
  listNames : service.listNames.Leads I fun r s => I s ∧ Directory.Tells fails r

theorem answers_ofLoaders {L : Failure → Prop} (hnote : ∀ e note, L e → L (e.addNote note))
    {metrics lists : Task Unit Json} (hmetrics : metrics.Traces fun _ r => Directory.Lists L r)
    (hlists : lists.Traces fun _ r => Directory.Lists L r)
    (retry : Option (RetryOptions Number)) :
    (ofLoaders metrics lists retry).Answers Directories.Textual (Directory.LoadFails L retry) := by
  have hinMetrics : ∀ {α : Type} {l : Directory.LookupM α} {P : Except Failure α → Prop},
      Directory.Keeps metrics l P → (inMetrics (Directory.alone metrics l)).Leads
        Directories.Textual fun r d => d.Textual ∧ P r :=
    fun h => Task.Leads.within h (fun _ hd => hd.1) fun _ _ _ hd hr => ⟨⟨hr.1, hd.2⟩, hr.2⟩
  have hinLists : ∀ {α : Type} {l : Directory.LookupM α} {P : Except Failure α → Prop},
      Directory.Keeps lists l P → (inLists (Directory.alone lists l)).Leads
        Directories.Textual fun r d => d.Textual ∧ P r :=
    fun h => Task.Leads.within h (fun _ hd => hd.2) fun _ _ _ hd hr => ⟨⟨hd.1, hr.1⟩, hr.2⟩
  exact {
    findMetric := fun name => hinMetrics (Directory.keeps_find hnote hmetrics name)
    findList := fun name => hinLists (Directory.keeps_find hnote hlists name)
    metricNames := hinMetrics (Directory.keeps_names hnote hmetrics)
    listNames := hinLists (Directory.keeps_names hnote hlists) }

end NameService

end MarketingFlow
