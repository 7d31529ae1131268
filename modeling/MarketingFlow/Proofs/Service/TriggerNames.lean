import MarketingFlow.Proofs.Interaction.Replies
import MarketingFlow.Proofs.Interaction.Retrying
import MarketingFlow.Proofs.Service.Compilation
import MarketingFlow.Proofs.Service.SharedLoad

/-!
# Triggers by name

A trigger that carries a name and no id gets the id of an entry of the account's listing: the first
one with this very name, or else the first whose name resembles it. Only where no name does is there
an error, which tells all the names that count.

A look-up first sees to it that the listing is there, which takes a load if nobody has asked before.
What comes after it is no more than a few lines in the journal.
-/

namespace MarketingFlow

open Outcome

namespace Text

theorem lowerChar_ne_nil (c : Char) : lowerChar c ≠ [] := by
  rw [lowerChar]
  split
  · simp
  · rw [mapCase]
    split
    next ns hns =>
      have htable : ∀ x ∈ lowerSequences, x.2 ≠ [] := by decide
      obtain ⟨before, after, hx, -⟩ := List.lookup_eq_some_iff.mp hns
      simpa using htable (c.toNat, ns) (by rw [hx]; simp)
    next => split <;> simp

/-- No text vanishes in lower case. -/
theorem lower_ne_empty {s : String} (h : s ≠ "") : lower s ≠ "" := by
  intro hempty
  have hlowered : lowerAfter [] s.toList = [] := by
    simpa [lower] using congrArg String.toList hempty
  cases hs : s.toList with
  | nil => exact h (String.toList_eq_nil_iff.mp hs)
  | cons c rest =>
    rw [hs, lowerAfter, List.append_eq_nil_iff] at hlowered
    split at hlowered
    · cases hlowered.1
    · exact lowerChar_ne_nil c hlowered.1

end Text

/-! ## After a common beginning -/

/-- A line in the journal. -/
def Event.IsMessage (e : Event World) : Prop :=
  ∃ level text, e = ⟨.log level text, ()⟩

/-- A run that only writes to the journal from some moment on is the only one from there. -/
theorem Program.Reaches.done_unique_of_messages {α : Type} {p : Program World α}
    {u w w' : List (Event World)} {a b : α} (h : Reaches p (u ++ w) (.done a))
    (hw : ∀ e ∈ w, e.IsMessage) (h' : Reaches p (u ++ w') (.done b)) : a = b := by
  generalize htrace : u ++ w = t at h
  generalize htrace' : u ++ w' = t' at h'
  generalize hr : Program.done a = r at h
  induction h generalizing u w w' t' with
  | here p =>
    subst hr
    exact h'.of_done.2
  | call answer _ ih =>
    cases u with
    | nil =>
      obtain rfl := htrace
      obtain ⟨level, text, hmessage⟩ := hw _ (.head _)
      cases hmessage
      -- The journal has but one answer.
      cases h' with
      | call answer' h' => exact ih (u := []) (fun e he => hw e (.tail _ he)) rfl _ rfl h' hr
    | cons e u =>
      obtain ⟨rfl, rfl⟩ := List.cons.inj htrace
      subst htrace'
      cases h' with
      | call answer' h' => exact ih hw rfl _ rfl h' hr
  | enter _ ih =>
    cases h' with
    | enter h' => exact ih hw htrace _ htrace' h' hr

theorem Task.Run.within {σ τ α : Type} {t : Task τ α} (part : σ → τ) (replace : σ → τ → σ)
    {s : σ} {u : List (Event World)} {r : Except Failure α} {x : τ} (h : t.Run (part s) u r x) :
    (t.within part replace).Run s u r (replace s x) := by
  rw [Task.Run, Task.start_within, ← List.append_nil u]
  exact (h.bind _).trans (.here _)

namespace Directory

/-! ## Names in a listing -/

/-- One of two names is a part of the other, case aside. -/
def Resembles (wanted name : String) : Prop :=
  (Text.lower wanted).toList <:+: (Text.lower name).toList ∨
    (Text.lower name).toList <:+: (Text.lower wanted).toList

theorem alike_iff (wanted name : String) : alike wanted name = true ↔ Resembles wanted name := by
  rw [alike, Bool.or_eq_true, Text.contains_iff, Text.contains_iff, Resembles]

theorem Resembles.refl (name : String) : Resembles name name :=
  .inl List.infix_rfl

/-- What a listing has for a name: the id of the first entry with this very name, or else of the
first whose name resembles it, or nothing if there is none. -/
inductive Listing.Finds (l : Listing) (name : String) : Option Json → Prop
  | exact {before after : Listing} {id : Json} (h : l = before ++ (name, id) :: after)
      (hfirst : ∀ x ∈ before, x.1 ≠ name) : Finds l name (some id)
  | similar {before after : Listing} {other : String} {id : Json}
      (hother : ∀ x ∈ l, x.1 ≠ name) (h : l = before ++ (other, id) :: after)
      (halike : Resembles name other) (hfirst : ∀ x ∈ before, ¬ Resembles name x.1) :
      Finds l name (some id)
  | nothing (h : ∀ x ∈ l, ¬ Resembles name x.1) : Finds l name none

namespace Listing

theorem exists_finds (l : Listing) (name : String) : ∃ found, l.Finds name found := by
  cases hexact : l.find? fun x => x.1 == name with
  | some x =>
    obtain ⟨hx, before, after, hl, hfirst⟩ := List.find?_eq_some_iff_append.mp hexact
    obtain rfl : x.1 = name := beq_iff_eq.mp hx
    exact ⟨some x.2, .exact hl (by simpa using hfirst)⟩
  | none =>
    have hother : ∀ x ∈ l, x.1 ≠ name := by simpa using hexact
    cases hfuzzy : l.find? fun x => alike name x.1 with
    | some x =>
      obtain ⟨hx, before, after, hl, hfirst⟩ := List.find?_eq_some_iff_append.mp hfuzzy
      refine ⟨some x.2, .similar hother hl ((alike_iff _ _).mp hx) fun y hy halike => ?_⟩
      have hnot := hfirst y hy
      rw [(alike_iff _ _).mpr halike] at hnot
      cases hnot
    | none =>
      refine ⟨none, .nothing fun x hx halike => ?_⟩
      exact List.find?_eq_none.mp hfuzzy x hx ((alike_iff _ _).mpr halike)

variable {l : Listing} {name : String} {found : Option Json}

theorem Finds.mem {id : Json} (h : l.Finds name (some id)) :
    ∃ other, (other, id) ∈ l ∧ Resembles name other := by
  cases h with
  | exact h => exact ⟨name, by simp [h], .refl name⟩
  | @similar _ _ other _ _ h halike => exact ⟨other, by simp [h], halike⟩

theorem Finds.eq_none_iff (h : l.Finds name found) :
    found = none ↔ ∀ x ∈ l, ¬ Resembles name x.1 := by
  constructor
  · rintro rfl
    cases h with
    | nothing h => exact h
  · intro hnone
    cases found with
    | none => rfl
    | some id =>
      obtain ⟨other, hmem, halike⟩ := h.mem
      exact absurd halike (hnone (other, id) hmem)

theorem Finds.idOf (hname : name ≠ "") (h : l.Finds name found) :
    l.idOf name = found.getD .null := by
  have hlower : (Text.lower name).isEmpty = false :=
    String.isEmpty_eq_false_iff.mpr (Text.lower_ne_empty hname)
  rw [Listing.idOf, hlower]
  cases h with
  | @exact before after id h hfirst =>
    have hfound : (l.find? fun x => x.1 == name) = some (name, id) :=
      List.find?_eq_some_iff_append.mpr ⟨by simp, before, after, h, by simpa using hfirst⟩
    rw [hfound]
    rfl
  | @similar before after other id hother h halike hfirst =>
    have hexact : (l.find? fun x => x.1 == name) = none := by simpa using hother
    have hfound : (l.find? fun x => alike name x.1) = some (other, id) := by
      refine List.find?_eq_some_iff_append.mpr
        ⟨(alike_iff _ _).mpr halike, before, after, h, fun x hx => ?_⟩
      simpa using (alike_iff name x.1).not.mpr (hfirst x hx)
    rw [hexact, hfound]
    rfl
  | nothing h =>
    have hexact : (l.find? fun x => x.1 == name) = none := by
      refine List.find?_eq_none.mpr fun x hx hsame => h x hx ?_
      rw [beq_iff_eq.mp hsame]
      exact .refl name
    have hfound : (l.find? fun x => alike name x.1) = none :=
      List.find?_eq_none.mpr fun x hx halike => h x hx ((alike_iff _ _).mp halike)
    rw [hexact, hfound]
    rfl

/-- The names that count, each once and in the order of the listing. -/
def names (l : Listing) : List String :=
  (l.map Prod.fst).eraseDups

end Listing

/-- The entries of a listing that count all have an id. -/
theorem given_of_mem_ofEntries {entries : List Json} {x : String × Json}
    (h : x ∈ Listing.ofEntries entries) : x.2.given = true := by
  obtain ⟨entry, -, hnamed⟩ := List.mem_filterMap.mp h
  rw [Json.named?.eq_def] at hnamed
  grind

/-! ## Look-ups -/

variable {σ : Type} {loader : Task σ Json} {p : Profile} {entries : List Json}
  {s s' : Directory × σ} {u : List (Event World)}

/-- By itself, a look-up goes from one wait to the next with no more than lines in the journal. -/
theorem reaches_of_settle (loader : Task σ Json) {α : Type} {l q : Program Lookup α} {a b : Shared}
    (h : settle l a = (q, b)) (x : σ) : ∃ w : List (Event World), (∀ e ∈ w, e.IsMessage) ∧
      Program.Reaches (l.translate (answer loader) (a.directory, x)) w
        (q.translate (answer loader) (b.directory, x)) := by
  induction l generalizing a with
  | done r =>
    cases h
    exact ⟨[], by simp, .here _⟩
  | call c next ih =>
    cases c with
    | read => exact ih a.directory h
    | write d => exact ih () (a := { a with directory := d }) h
    | release => exact ih () (a := { a with locked := false }) h
    | log level text =>
      obtain ⟨w, hw, hreaches⟩ := ih () h
      refine ⟨⟨.log level text, ()⟩ :: w, ?_, .call (I := World) (c := .log level text) () hreaches⟩
      exact List.forall_mem_cons.mpr ⟨⟨level, text, rfl⟩, hw⟩
    | acquire => cases h; exact ⟨[], by simp, .here _⟩
    | load => cases h; exact ⟨[], by simp, .here _⟩
    | sleep seconds => cases h; exact ⟨[], by simp, .here _⟩
  | loop body start next =>
    cases h
    exact ⟨[], by simp, .here _⟩

/-- The listing comes to a directory: it has been taken in before, or the load of the look-up that
begins comes to it. -/
inductive Fetches (loader : Task σ Json) (p : Profile) (entries : List Json) :
    Directory × σ → List (Event World) → Directory × σ → Prop
  | kept (x : σ) : Fetches loader p entries (ofListing (.ofEntries entries), x) []
      (ofListing (.ofEntries entries), x)
  | loaded {x x' : σ} {v : List (Event World)}
      (h : (alone loader (load p)).Run (.empty, x) v (.ok (.arr entries)) (.empty, x')) :
      Fetches loader p entries (.empty, x)
        (⟨.log .info ("Loading account " ++ p.kind ++ "s..."), ()⟩ :: v)
        (ofListing (.ofEntries entries), x')

theorem run_find (hentries : ∀ entry ∈ entries, entry.isEntry = true)
    (h : Fetches loader p entries s u s') (name : String) :
    ∃ w : List (Event World), (∀ e ∈ w, e.IsMessage) ∧
      (alone loader (find p (.str name))).Run s (u ++ w)
        (.ok ((Listing.ofEntries entries).idOf name)) s' := by
  have hprogram : (find p (.str name)).run = _ := program_eq (p := p) (.find name)
  change ∃ w : List (Event World), _ ∧
    Program.Reaches ((find p (.str name)).run.translate (answer loader) s) (u ++ w) _
  rw [hprogram]
  cases h with
  | kept x =>
    obtain ⟨w, hw, hrun⟩ := reaches_of_settle loader
      (settle_loaded (p := p) (.find name) (.ofEntries entries) true) x
    exact ⟨w, hw, hrun⟩
  | @loaded x x' v hload =>
    obtain ⟨w, hw, hrun⟩ := reaches_of_settle loader
      (settle_afterLoad_ok (p := p) (.find name) hentries) x'
    refine ⟨w, hw, ?_⟩
    rw [run_loadIfNeeded]
    have hrest : Program.Reaches
        ((((load p).run.bind (fillFrom p)).bind (finish p (.find name))).translate
          (answer loader) (.empty, x)) (v ++ w)
        (.done (.ok ((Listing.ofEntries entries).idOf name),
          (ofListing (.ofEntries entries), x'))) := by
      rw [Program.bind_assoc, Program.translate_bind]
      exact (Program.Reaches.bind hload _).trans hrun
    exact .call (I := World) (c := .log .info ("Loading account " ++ p.kind ++ "s...")) () hrest

theorem run_names (l : Listing) (x : σ) :
    (alone loader (names p)).Run (ofListing l, x) [] (.ok (l.names.map .str)) (ofListing l, x) := by
  have hnames : (ofListing l).table.map Prod.fst = l.names.map .str := by
    rw [Listing.names, ← Listing.map_fst_firsts]
    simp [ofListing, Listing.table]
  rw [← hnames]
  exact .here _

end Directory

namespace NameService

variable {α : Type} {l : Task (Directory × Unit) α} {d : Directories} {x : Directory}
  {u : List (Event World)} {r : Except Failure α}

theorem run_inMetrics (h : l.Run (d.metrics, ()) u r (x, ())) :
    (inMetrics l).Run d u r { d with metrics := x } :=
  Task.Run.within (fun d : Directories => (d.metrics, ())) (fun d x => { d with metrics := x.1 }) h

theorem run_inLists (h : l.Run (d.lists, ()) u r (x, ())) :
    (inLists l).Run d u r { d with lists := x } :=
  Task.Run.within (fun d : Directories => (d.lists, ())) (fun d x => { d with lists := x.1 }) h

end NameService

open Directory

namespace Trigger

/-! ## Triggers -/

/-- The directory that a trigger refers to. -/
def directory (d : Directories) : Trigger → Directory
  | list _ _ => d.lists
  | _ => d.metrics

def replace (d : Directories) (x : Directory) : Trigger → Directories
  | list _ _ => { d with lists := x }
  | _ => { d with metrics := x }

def loader (metrics lists : Task Unit Json) : Trigger → Task Unit Json
  | list _ _ => lists
  | _ => metrics

/-- The trigger of a payload, with the id of its metric or list. -/
def compiled (id : Json) : Trigger → Json
  | metric _ _ filter => .obj ([("type", .str "metric"), ("id", id)] ++
      (match filter with
        | some filter => [("trigger_filter", filter.toJson)]
        | none => []))
  | list _ _ => .obj [("type", .str "list"), ("id", id)]
  | _ => .null

/-- What becomes of a trigger by what a listing has for its name. -/
def resolved (t : Trigger) (l : Listing) (name : String) : Option Json → Except Failure Json
  | some id => .ok (t.compiled id)
  | none => .error (Failure.resolution
      (Text.capitalize t.typeName ++ " \"" ++ name ++ "\"" ++ " not found in account. Available " ++
        t.typeName ++ "s: " ++ ", ".intercalate (l.names.take 20))
      (.str name) (l.names.map .str))

end Trigger

namespace Payload

theorem mapM_zipIdx_texts {f : Json × Nat → Except Failure String}
    (hf : ∀ text i, f (.str text, i) = .ok text) (texts : List String) (n : Nat) :
    ((texts.map .str).zipIdx n).mapM f = .ok texts := by
  induction texts generalizing n with
  | nil => rfl
  | cons text rest ih =>
    rw [List.map_cons, List.zipIdx_cons]
    exact mapM_cons_eq_ok_iff.mpr ⟨text, rest, hf text n, ih (n + 1), rfl⟩

theorem joinNames_texts (texts : List String) :
    joinNames (texts.map .str) = .ok (", ".intercalate texts) := by
  rw [joinNames, mapM_zipIdx_texts (fun _ _ => rfl)]
  rfl

section

variable {σ : Type} {s s' : σ} {u : List (Event World)} {l : Listing} {name : String}
  {found : Option Json} {find : Json → Task σ Json} {names : Task σ (List Json)}

/-- Where the listing has an id, no more is asked; where it has none, all names are. -/
theorem run_lookupId (t : Trigger) (hgiven : ∀ id, found = some id → id.given = true)
    (hfind : (find (.str name)).Run s u (.ok (found.getD .null)) s')
    (hnames : names.Run s' [] (.ok (l.names.map .str)) s') :
    (lookupId t.typeName (.str name) (some (find, names)) >>= fun id => pure (t.compiled id)).Run
      s u (t.resolved l name found) s' := by
  have htext : (Json.str name).text = name := rfl
  cases found with
  | some id =>
    have hlookup : (lookupId t.typeName (.str name) (some (find, names))).Run s (u ++ []) (.ok id)
        s' := by
      apply Task.run_bind_ok hfind
      rw [Option.getD_some, if_pos (hgiven id rfl)]
      exact .here _
    rw [← List.append_nil u, ← List.append_nil u, Trigger.resolved]
    exact Task.run_bind_ok hlookup (.here _)
  | none =>
    apply Task.run_bind_error
    rw [← List.append_nil u]
    apply Task.run_bind_ok hfind
    rw [Option.getD_none, if_neg (show ¬ Json.null.given = true from Bool.false_ne_true)]
    apply Task.run_bind_ok (u := []) hnames
    rw [← List.map_take, joinNames_texts, htext]
    exact .here _

variable (service : NameService σ) {wanted id : Json}

theorem resolveTrigger_metric (filter : Option ConditionFilter) (hid : id.given = false) :
    resolveTrigger (some service) (some (.metric wanted id filter)) =
      lookupId "metric" wanted (some (service.findMetric, service.metricNames)) >>= fun found =>
        pure ((Trigger.metric wanted id filter).compiled found) := by
  simp only [resolveTrigger, hid]
  rfl

theorem resolveTrigger_list (hid : id.given = false) :
    resolveTrigger (some service) (some (.list wanted id)) =
      lookupId "list" wanted (some (service.findList, service.listNames)) >>= fun found =>
        pure ((Trigger.list wanted id).compiled found) := by
  simp only [resolveTrigger, hid]
  rfl

end

/-- A trigger that has to be looked up by its name gets the id that the listing has for it, or there
is an error that tells all names. -/
theorem trigger_resolved {entries : List Json} (hentries : ∀ entry ∈ entries, entry.isEntry = true)
    {t : Trigger} {name : String} (hwanted : t.wanted? = some (.str name)) (hname : name ≠ "")
    (metrics lists : Task Unit Json) (retry : Option (RetryOptions Number)) :
    ∃ found, (Listing.ofEntries entries).Finds name found ∧
      (found = none ↔ ∀ x ∈ Listing.ofEntries entries, ¬ Resembles name x.1) ∧
      ∀ (d : Directories) (u : List (Event World)) (x : Directory),
        Fetches (t.loader metrics lists) ⟨t.typeName, retry⟩ entries (t.directory d, ()) u (x, ()) →
        (∃ w, (∀ e ∈ w, e.IsMessage) ∧
          (resolveTrigger (some (.ofLoaders metrics lists retry)) (some t)).Run d (u ++ w)
            (t.resolved (.ofEntries entries) name found) (t.replace d x)) ∧
        ∀ w r d', (resolveTrigger (some (.ofLoaders metrics lists retry)) (some t)).Run d (u ++ w)
          r d' → r = t.resolved (.ofEntries entries) name found ∧ d' = t.replace d x := by
  obtain ⟨found, hfinds⟩ := Listing.exists_finds (.ofEntries entries) name
  refine ⟨found, hfinds, hfinds.eq_none_iff, fun d u x hfetches => ?_⟩
  have hgiven : ∀ id, found = some id → id.given = true := by
    rintro id rfl
    obtain ⟨other, hmem, -⟩ := hfinds.mem
    exact given_of_mem_ofEntries hmem
  obtain ⟨w, hw, hfind⟩ := run_find hentries hfetches name
  rw [hfinds.idOf hname] at hfind
  obtain ⟨hx, hnames⟩ : x = ofListing (.ofEntries entries) ∧ (alone (t.loader metrics lists)
      (names ⟨t.typeName, retry⟩)).Run (x, ()) []
      (.ok ((Listing.ofEntries entries).names.map .str)) (x, ()) := by
    generalize t.directory d = d₀ at hfetches
    cases hfetches <;> exact ⟨rfl, run_names _ _⟩
  have hrun : (resolveTrigger (some (.ofLoaders metrics lists retry)) (some t)).Run d (u ++ w)
      (t.resolved (.ofEntries entries) name found) (t.replace d x) := by
    cases t with
    | metric wanted id filter =>
      obtain ⟨hid, rfl⟩ : id.given = false ∧ wanted = .str name := by
        simpa [Trigger.wanted?] using hwanted
      rw [resolveTrigger_metric _ _ hid]
      exact run_lookupId (.metric (.str name) id filter) hgiven (NameService.run_inMetrics hfind)
        (NameService.run_inMetrics hnames)
    | list wanted id =>
      obtain ⟨hid, rfl⟩ : id.given = false ∧ wanted = .str name := by
        simpa [Trigger.wanted?] using hwanted
      rw [resolveTrigger_list _ hid]
      exact run_lookupId (.list (.str name) id) hgiven (NameService.run_inLists hfind)
        (NameService.run_inLists hnames)
    | _ => cases hwanted
  refine ⟨⟨w, hw, hrun⟩, fun w' r d' hrun' => ?_⟩
  have hend := hrun.done_unique_of_messages hw hrun'
  cases hend
  exact ⟨rfl, rfl⟩

/-- A listing where a name that resembles another one stands before it. -/
def orders : List Json :=
  [.obj [("name", .str "Placed Order Again"), ("id", .str "M1")],
    .obj [("name", .null), ("id", .str "M2")],
    .obj [("name", .str "Placed Order"), ("id", .str "M3")],
    .obj [("name", .str "Placed Order"), ("id", .str "M4")]]

theorem orders_resolved : ∃ w d', (resolveTrigger
    (some (.ofLoaders (pure (.arr orders)) (pure (.arr [])) none))
    (some (.metric (.str "Placed Order") .null none))).Run .empty
      (⟨.log .info "Loading account metrics...", ()⟩ :: w)
      (.ok (.obj [("type", .str "metric"), ("id", .str "M3")])) d' := by
  let t : Trigger := .metric (.str "Placed Order") .null none
  have hentries : ∀ entry ∈ orders, entry.isEntry = true := by decide
  have hwanted : t.wanted? = some (.str "Placed Order") := rfl
  obtain ⟨found, hfinds, -, hruns⟩ := trigger_resolved hentries hwanted (by decide)
    (pure (.arr orders)) (pure (.arr [])) none
  have hfound : found = some (.str "M3") := by
    have hid := hfinds.idOf (by decide)
    cases found with
    | none => cases hid
    | some id => exact congrArg some hid.symm
  subst hfound
  obtain ⟨⟨w, -, hrun⟩, -⟩ := hruns .empty _ _ (.loaded (.here _))
  exact ⟨w, _, hrun⟩

end Payload

end MarketingFlow
