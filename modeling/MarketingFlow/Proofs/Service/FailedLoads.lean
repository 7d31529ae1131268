import Mathlib.Logic.Relation
import MarketingFlow.Proofs.Interaction.States
import MarketingFlow.Proofs.Service.Documents
import MarketingFlow.Proofs.Service.Lookups
import MarketingFlow.Proofs.Service.Stages

/-!
# What a failed load leaves behind

A directory takes the entries of a listing one by one and is marked as loaded at the end. An entry
that cannot be read ends the look-up in the middle: the directory still counts as not loaded, but
the entries before that one stay in the table. They are all that a failed load leaves behind, and
every later load adds to them: the table in the end is that of one listing, of the strays in front
of the listing that could be taken in.
-/

namespace MarketingFlow

open Outcome

namespace Json

/-- An entry that can be read: an object whose name is a key if the entry counts. -/
def isReadable (v : Json) : Bool :=
  v.isObject && (!((v.member "name").given && (v.member "id").given) || (v.member "name").isKey)

/-- The name and the id of an entry that counts. -/
def counted? (v : Json) : Option (Json × Json) :=
  if (v.member "name").given && (v.member "id").given then some (v.member "name", v.member "id")
  else none

end Json

namespace NameTable

theorem add_eq_self_iff (t : NameTable) (name id : Json) :
    t.add name id = t ↔ (t.idOf? name).isSome = true := by
  rw [add]
  split <;> simp_all

/-- The table after some entries were taken into it one after the other. -/
def takeIn (t : NameTable) (entries : List Json) : NameTable :=
  (entries.filterMap Json.counted?).foldl (fun (t : NameTable) x => t.add x.1 x.2) t

theorem takeIn_append (t : NameTable) (xs ys : List Json) :
    t.takeIn (xs ++ ys) = (t.takeIn xs).takeIn ys := by
  simp only [takeIn, List.filterMap_append, List.foldl_append]

theorem takeIn_cons (t : NameTable) (entry : Json) (rest : List Json) :
    t.takeIn (entry :: rest) = (t.takeIn [entry]).takeIn rest :=
  takeIn_append t [entry] rest

theorem prefix_foldl_add (t : NameTable) (xs : List (Json × Json)) :
    t <+: xs.foldl (fun (t : NameTable) x => t.add x.1 x.2) t := by
  induction xs generalizing t with
  | nil => exact List.prefix_rfl
  | cons x xs ih =>
    refine List.IsPrefix.trans ?_ (ih (t.add x.1 x.2))
    rw [add]
    split
    · exact List.prefix_rfl
    · exact List.prefix_append _ _

theorem takeIn_eq_self_iff {t : NameTable} {entries : List Json} :
    t.takeIn entries = t ↔
      ∀ x ∈ entries.filterMap Json.counted?, (t.idOf? x.1).isSome = true := by
  rw [takeIn]
  -- A table only grows, so it is the same in the end only if it never changed on the way.
  induction entries.filterMap Json.counted? with
  | nil => simp
  | cons x xs ih =>
    rw [List.foldl_cons, List.forall_mem_cons, ← ih, ← add_eq_self_iff t x.1 x.2]
    constructor
    · intro h
      have hfirst := prefix_foldl_add (t.add x.1 x.2) xs
      rw [h] at hfirst
      have hadd : t.add x.1 x.2 = t :=
        hfirst.eq_of_length_le (prefix_foldl_add t [x]).length_le
      exact ⟨hadd, by rwa [hadd] at h⟩
    · rintro ⟨hadd, h⟩
      rwa [hadd]

end NameTable

namespace Directory

theorem addEntry_of_isReadable (t : NameTable) {entry : Json} (h : entry.isReadable = true) :
    addEntry t entry = .ok (t.takeIn [entry]) := by
  obtain ⟨hobject, hkey⟩ := Bool.and_eq_true_iff.mp h
  rw [addEntry, Json.get_eq_ok_iff.mpr ⟨hobject, rfl⟩, ok_bind,
    Json.get_eq_ok_iff.mpr ⟨hobject, rfl⟩, ok_bind]
  cases hcounts : (entry.member "name").given && (entry.member "id").given with
  | true =>
    rw [hcounts, Bool.not_true, Bool.false_or] at hkey
    simp [NameTable.takeIn, Json.counted?, hcounts, Json.asKey, hkey]
  | false => simp [NameTable.takeIn, Json.counted?, hcounts]

theorem addEntry_of_not_isReadable {entry : Json} (h : entry.isReadable = false) :
    ∃ e, ∀ t, addEntry t entry = .error e := by
  cases hname : entry.get "name" with
  | error e => exact ⟨e, fun t => by rw [addEntry, hname, error_bind]⟩
  | ok name =>
    obtain ⟨hobject, rfl⟩ := Json.get_eq_ok_iff.mp hname
    have hid : entry.get "id" = .ok (entry.member "id") := Json.get_eq_ok_iff.mpr ⟨hobject, rfl⟩
    rw [Json.isReadable, hobject, Bool.true_and, Bool.or_eq_false_iff, Bool.not_eq_false'] at h
    refine ⟨Failure.misuse (.notAKey (entry.member "name").typeName), fun t => ?_⟩
    rw [addEntry, hname, ok_bind, hid, ok_bind, if_pos h.1, Json.asKey, if_neg (by simp [h.2])]
    rfl

/-! ## What comes of a load -/

/-- The entries are taken in, up to the first that cannot be read. -/
inductive Fills (t : NameTable) : List Json → Except Failure Unit → NameTable → Prop where
  | whole {entries : List Json} (h : ∀ entry ∈ entries, entry.isReadable = true) :
      Fills t entries (.ok ()) (t.takeIn entries)
  | broken (before : List Json) {after : List Json} {bad : Json} {e : Failure}
      (h : ∀ entry ∈ before, entry.isReadable = true) (hbad : bad.isReadable = false)
      (he : ∀ t, addEntry t bad = .error e) :
      Fills t (before ++ bad :: after) (.error e) (t.takeIn before)

/-- What a load comes to for a directory: it is loaded once all of a listing is taken in. -/
inductive Takes (d : Directory) : Except Failure Json → Except Failure Unit → Directory → Prop where
  | failed (e : Failure) : Takes d (.error e) (.error e) d
  | unlisted {v : Json} {e : Failure} (h : v.iterate = .error e) : Takes d (.ok v) (.error e) d
  | broken {v : Json} {entries : List Json} {e : Failure} {t : NameTable}
      (h : v.iterate = .ok entries) (hfills : Fills d.table entries (.error e) t) :
      Takes d (.ok v) (.error e) ⟨t, d.loaded⟩
  | whole {v : Json} {entries : List Json} {t : NameTable} (h : v.iterate = .ok entries)
      (hfills : Fills d.table entries (.ok ()) t) : Takes d (.ok v) (.ok ()) ⟨t, true⟩

/-- The entries of a loaded listing that are taken in before the first that cannot be read. -/
def strays : Except Failure Json → List Json
  | .ok v =>
    match v.iterate with
    | .ok entries => entries.takeWhile Json.isReadable
    | .error _ => []
  | .error _ => []

theorem Fills.cons {t t' : NameTable} {entry : Json} {rest : List Json} {r : Except Failure Unit}
    (h : Fills (t.takeIn [entry]) rest r t') (hentry : entry.isReadable = true) :
    Fills t (entry :: rest) r t' := by
  cases h with
  | whole h =>
    rw [← NameTable.takeIn_cons]
    exact .whole (List.forall_mem_cons.mpr ⟨hentry, h⟩)
  | broken before h hbad he =>
    rw [← NameTable.takeIn_cons]
    exact .broken (entry :: before) (List.forall_mem_cons.mpr ⟨hentry, h⟩) hbad he

theorem Fills.eq_takeIn {t t' : NameTable} {entries : List Json} {r : Except Failure Unit}
    (h : Fills t entries r t') : t' = t.takeIn (entries.takeWhile Json.isReadable) := by
  cases h with
  | whole h => rw [List.takeWhile_eq_self_iff.mpr h]
  | broken before h hbad _ =>
    rw [List.takeWhile_append_of_pos h, List.takeWhile_cons_of_neg (by simp [hbad]),
      List.append_nil]

theorem Takes.eq_of_error {d d' : Directory} {loaded : Except Failure Json} {e : Failure}
    (h : Takes d loaded (.error e) d') : d' = ⟨d.table.takeIn (strays loaded), d.loaded⟩ := by
  cases h with
  | failed => rfl
  | unlisted h => rw [strays, h]; rfl
  | broken h hfills => rw [strays, h, hfills.eq_takeIn]

theorem Takes.eq_of_ok {d d' : Directory} {loaded : Except Failure Json}
    (h : Takes d loaded (.ok ()) d') : d' = ⟨d.table.takeIn (strays loaded), true⟩ := by
  cases h with
  | whole h hfills => rw [strays, h, hfills.eq_takeIn]

variable {σ α β : Type} {loader : Task σ Json} {p : Profile} {d : Directory} {s s' : Directory × σ}
  {u : List (Event World)}

/-! ## Runs -/

theorem run_read_bind {f : Directory → LookupM β} {r : Except Failure β}
    (h : (alone loader (ask .read >>= f)).Run s u r s') : (alone loader (f s.1)).Run s u r s' :=
  h

theorem run_write_bind {f : Unit → LookupM β} {r : Except Failure β}
    (h : (alone loader (ask (.write d) >>= f)).Run s u r s') :
    (alone loader (f ())).Run (d, s.2) u r s' :=
  h

theorem run_log_bind {level : Level} {text : String} {f : Unit → LookupM β}
    {r : Except Failure β} (h : (alone loader (ask (.log level text) >>= f)).Run s u r s') :
    ∃ v, u = ⟨.log level text, ()⟩ :: v ∧ (alone loader (f ())).Run s v r s' := by
  cases h with
  | call answer h => exact ⟨_, rfl, h⟩

theorem run_known_bind {x : Except Failure α} {f : α → LookupM β} {r : Except Failure β}
    (h : (alone loader (ExceptT.mk (pure x) >>= f)).Run s u r s') :
    (∃ a, x = .ok a ∧ (alone loader (f a)).Run s u r s') ∨
      ∃ e, x = .error e ∧ r = .error e ∧ s' = s := by
  cases x with
  | ok a => exact .inl ⟨a, rfl, h⟩
  | error e =>
    obtain ⟨-, hend⟩ := Program.Reaches.of_done h
    cases hend
    exact .inr ⟨e, rfl, rfl, rfl⟩

theorem run_fill {entries : List Json} {r : Except Failure Unit}
    (h : (alone loader (fill entries)).Run s u r s') :
    s'.2 = s.2 ∧ s'.1.loaded = s.1.loaded ∧ Fills s.1.table entries r s'.1.table := by
  -- On the entries that are left, from the table that the ones before have made.
  induction entries generalizing s with
  | nil =>
    obtain ⟨-, rfl, rfl⟩ := Task.run_ofExcept h
    exact ⟨rfl, rfl, .whole (by simp)⟩
  | cons entry rest ih =>
    rw [fill] at h
    replace h := run_read_bind h
    cases hentry : entry.isReadable with
    | true =>
      rw [addEntry_of_isReadable s.1.table hentry] at h
      rcases run_known_bind h with ⟨table, ⟨rfl⟩, h⟩ | ⟨e, ⟨⟩, -⟩
      obtain ⟨hloader, hloaded, hfills⟩ := ih (run_write_bind h)
      exact ⟨hloader, hloaded, hfills.cons hentry⟩
    | false =>
      obtain ⟨e, he⟩ := addEntry_of_not_isReadable hentry
      rw [he s.1.table] at h
      rcases run_known_bind h with ⟨table, ⟨⟩, -⟩ | ⟨_, ⟨rfl⟩, rfl, rfl⟩
      exact ⟨rfl, rfl, .broken [] (by simp) hentry he⟩

theorem leads_load (d : Directory) :
    (alone loader (load p)).Leads (fun s => s.1 = d) fun _ s => s.1 = d := by
  have honce : (loader.within Prod.snd fun s x => (s.1, x) : Task (Directory × σ) Json).Leads
      (fun s => s.1 = d) fun _ s => s.1 = d :=
    Task.Leads.within (I := fun _ => True) .anything (fun _ _ => trivial) fun _ _ _ hs _ => hs
  obtain ⟨kind, _ | o⟩ := p
  · rwa [alone_load_once]
  · rw [alone_load]
    exact honce.retry (fun _ _ h => h) (fun _ _ h => h) (fun _ _ _ h => h) fun _ _ _ _ h _ => h

theorem run_listing {r : Except Failure (List Json)}
    (h : (alone loader (load p >>= fun v => ExceptT.mk (pure v.iterate))).Run s u r s') :
    s'.1 = s.1 ∧ ∃ v loaded, (alone loader (load p)).Run s v loaded s' ∧
      r = loaded >>= Json.iterate := by
  rw [alone_bind] at h
  rcases Task.run_bind h with ⟨v, w, document, s₁, -, hload, h⟩ | ⟨e, rfl, hload⟩
  · obtain ⟨-, rfl, rfl⟩ := Task.run_ofExcept h
    exact ⟨leads_load s.1 s rfl _ _ _ hload, v, .ok document, hload, rfl⟩
  · exact ⟨leads_load s.1 s rfl _ _ _ hload, u, .error e, hload, rfl⟩

theorem run_marked {text : Directory → String} {r : Except Failure Unit}
    (h : (alone loader (do
      let d ← ask .read
      ask (.write { d with loaded := true })
      ask (.log .info (text d)))).Run s u r s') : r = .ok () ∧ s' = (⟨s.1.table, true⟩, s.2) := by
  replace h := run_write_bind (run_read_bind h)
  cases h with
  | call answer h =>
    obtain ⟨-, hend⟩ := Program.Reaches.of_done h
    cases hend
    exact ⟨rfl, rfl⟩

theorem takes_of_loadIfNeeded {r : Except Failure Unit}
    (h : (alone loader (loadIfNeeded p)).Run s u r s') :
    s.1.loaded = true ∧ r = .ok () ∧ s' = s ∨
      s.1.loaded = false ∧ ∃ v loaded, (alone loader (load p)).Run s v loaded (s.1, s'.2) ∧
        Takes s.1 loaded r s'.1 := by
  rw [loadIfNeeded, run_bind_eq] at h
  replace h := run_read_bind h
  cases hloaded : s.1.loaded with
  | true =>
    rw [hloaded, if_pos rfl] at h
    obtain ⟨-, rfl, rfl⟩ := Task.run_ofExcept h
    exact .inl ⟨rfl, rfl, rfl⟩
  | false =>
    rw [hloaded, if_neg Bool.false_ne_true] at h
    refine .inr ⟨rfl, ?_⟩
    obtain ⟨w, -, h⟩ := run_log_bind h
    rw [alone_bind] at h
    rcases Task.run_bind h with ⟨v, w', entries, ⟨d, x⟩, -, hentries, h⟩ | ⟨e, rfl, hentries⟩
    · obtain ⟨hd, v', loaded, hload, hlist⟩ := run_listing hentries
      obtain rfl : d = s.1 := hd
      obtain ⟨v, rfl, hiterate⟩ := bind_eq_ok_iff.mp hlist.symm
      rw [alone_bind] at h
      rcases Task.run_bind h with ⟨_, _, ⟨⟩, s₁, -, hfill, h⟩ | ⟨e, rfl, hfill⟩
      · obtain ⟨hx, -, hfills⟩ := run_fill hfill
        obtain ⟨rfl, rfl⟩ := run_marked h
        obtain rfl : s₁.2 = x := hx
        exact ⟨v', .ok v, hload, .whole hiterate hfills⟩
      · obtain ⟨hx, hunloaded, hfills⟩ := run_fill hfill
        obtain rfl : s'.2 = x := hx
        refine ⟨v', .ok v, hload, ?_⟩
        have hd : s'.1 = ⟨s'.1.table, s.1.loaded⟩ := by rw [← hunloaded]
        rw [hd]
        exact .broken hiterate hfills
    · obtain ⟨hd, v, loaded, hload, hlist⟩ := run_listing hentries
      obtain ⟨d, x⟩ := s'
      obtain rfl : d = s.1 := hd
      refine ⟨v, loaded, hload, ?_⟩
      rcases bind_eq_error_iff.mp hlist.symm with rfl | ⟨document, rfl, hiterate⟩
      · exact .failed e
      · exact .unlisted hiterate

theorem run_ensureLoaded {r : Except Failure Unit}
    (h : (alone loader (ensureLoaded p)).Run s u r s') :
    (alone loader (loadIfNeeded p)).Run s u r s' := by
  replace h : (alone loader (ExceptT.lift (loadIfNeeded p).run >>= fun r =>
      (do ask .release; ExceptT.mk (pure r)))).Run s u r s' := h
  rw [alone_bind, alone_result] at h
  obtain ⟨v, w, r', s₁, rfl, hload, h⟩ := Task.run_result_bind h
  obtain ⟨rfl, rfl, rfl⟩ := Task.run_ofExcept h
  rwa [List.append_nil]

/-! ## Look-ups that fail -/

/-- What a look-up that fails in loading leaves: the directory still counts as not loaded, and the
entries before the first that cannot be read are in the table. They leave no trace only if their
names were there before. -/
structure Stained (loader : Task σ Json) (p : Profile) (s s' : Directory × σ) : Prop where
  unloaded : s.1.loaded = false
  takes : ∃ v loaded, (alone loader (load p)).Run s v loaded (s.1, s'.2) ∧
    s'.1 = ⟨s.1.table.takeIn (strays loaded), false⟩ ∧
    (s'.1 = s.1 ↔ ∀ x ∈ (strays loaded).filterMap Json.counted?,
      (s.1.table.idOf? x.1).isSome = true)

theorem stained_of_run {e : Failure} (h : (alone loader (ensureLoaded p)).Run s u (.error e) s') :
    Stained loader p s s' := by
  rcases takes_of_loadIfNeeded (run_ensureLoaded h) with ⟨-, ⟨⟩, -⟩ |
    ⟨hunloaded, v, loaded, hload, htakes⟩
  have hd := htakes.eq_of_error
  rw [hunloaded] at hd
  refine ⟨hunloaded, v, loaded, hload, hd, ?_⟩
  rw [hd, ← NameTable.takeIn_eq_self_iff]
  constructor
  · exact fun h => congrArg Directory.table h
  · intro h
    rw [h, ← hunloaded]

theorem loaded_of_run (h : (alone loader (ensureLoaded p)).Run s u (.ok ()) s') :
    s'.1.loaded = true := by
  rcases takes_of_loadIfNeeded (run_ensureLoaded h) with ⟨hloaded, -, rfl⟩ |
    ⟨-, v, loaded, -, htakes⟩
  · exact hloaded
  · rw [htakes.eq_of_ok]

theorem eq_of_run_findLoaded {name : Json} {r : Except Failure Json}
    (h : (alone loader (findLoaded p name)).Run s u r s') : s' = s := by
  rw [findLoaded] at h
  rcases run_known_bind (run_read_bind h) with ⟨key, -, h⟩ | ⟨e, -, -, rfl⟩
  · split at h
    · exact (Task.run_ofExcept h).2.2
    · rcases run_known_bind h with ⟨wanted, -, h⟩ | ⟨e, -, -, rfl⟩
      · split at h
        · exact (Task.run_ofExcept h).2.2
        · rcases run_known_bind h with ⟨_ | entry, -, h⟩ | ⟨e, -, -, rfl⟩
          · obtain ⟨v, -, h⟩ := run_log_bind h
            exact (Task.run_ofExcept h).2.2
          · obtain ⟨v, -, h⟩ := run_log_bind h
            exact (Task.run_ofExcept h).2.2
          · rfl
      · rfl
  · rfl

/-- A look-up that fails with its directory not loaded has failed in loading. -/
theorem stained_of_lookup {f : Unit → LookupM α} {e : Failure}
    (hf : ∀ s₁ v r s₂, (alone loader (f ())).Run s₁ v r s₂ → s₂ = s₁)
    (h : (alone loader (ensureLoaded p >>= f)).Run s u (.error e) s')
    (hunloaded : s'.1.loaded = false) : Stained loader p s s' := by
  rw [alone_bind] at h
  rcases Task.run_bind h with ⟨v, w, ⟨⟩, s₁, -, hload, hlookup⟩ | ⟨_, ⟨rfl⟩, hload⟩
  · rw [hf _ _ _ _ hlookup, loaded_of_run hload] at hunloaded
    cases hunloaded
  · exact stained_of_run hload

/-- A look-up of a name or of all names that fails in loading. -/
inductive LooksInVain (loader : Task σ Json) (p : Profile) (s s' : Directory × σ) : Prop where
  | find (name : Json) {u : List (Event World)} {e : Failure}
      (h : (alone loader (find p name)).Run s u (.error e) s') (hunloaded : s'.1.loaded = false)
  | names {u : List (Event World)} {e : Failure}
      (h : (alone loader (names p)).Run s u (.error e) s') (hunloaded : s'.1.loaded = false)

theorem LooksInVain.stained (h : LooksInVain loader p s s') : Stained loader p s s' := by
  cases h with
  | find name h hunloaded =>
    exact stained_of_lookup (fun _ _ _ _ => eq_of_run_findLoaded) h hunloaded
  | names h hunloaded =>
    refine stained_of_lookup (fun s₁ v r s₂ hread => ?_) h hunloaded
    exact (Task.run_ofExcept (run_read_bind hread)).2.2

/-- What a load can come to. -/
def Loads (loader : Task σ Json) (p : Profile) (loaded : Except Failure Json) : Prop :=
  ∃ s u s', (alone loader (load p)).Run s u loaded s'

theorem table_of_looksInVain (h : Relation.ReflTransGen (LooksInVain loader p) s s')
    (hunloaded : s.1.loaded = false) :
    ∃ failed : List (Except Failure Json), (∀ loaded ∈ failed, Loads loader p loaded) ∧
      s'.1 = ⟨s.1.table.takeIn (failed.flatMap strays), false⟩ := by
  -- On the look-ups: each starts from the directory that the ones before it have left.
  induction h with
  | refl => exact ⟨[], by simp, by rw [← hunloaded]; rfl⟩
  | tail _ hlast ih =>
    obtain ⟨failed, hfailed, hd⟩ := ih
    obtain ⟨-, v, loaded, hload, hd', -⟩ := hlast.stained
    refine ⟨failed ++ [loaded], ?_, ?_⟩
    · rintro x hx
      rcases List.mem_append.mp hx with hx | hx
      · exact hfailed x hx
      · rw [List.mem_singleton.mp hx]
        exact ⟨_, v, _, hload⟩
    · rw [hd', hd, List.flatMap_append, NameTable.takeIn_append, List.flatMap_singleton]

theorem table_of_load (h : Relation.ReflTransGen (LooksInVain loader p) s s')
    (hunloaded : s.1.loaded = false) {s₂ : Directory × σ}
    (hload : (alone loader (ensureLoaded p)).Run s' u (.ok ()) s₂) :
    ∃ (failed : List (Except Failure Json)) (v : List (Event World)) (document : Json)
      (entries : List Json), (∀ loaded ∈ failed, Loads loader p loaded) ∧
      (alone loader (load p)).Run s' v (.ok document) (s'.1, s₂.2) ∧
      document.iterate = .ok entries ∧ (∀ entry ∈ entries, entry.isReadable = true) ∧
      s₂.1 = ⟨s.1.table.takeIn (failed.flatMap strays ++ entries), true⟩ := by
  obtain ⟨failed, hfailed, hd⟩ := table_of_looksInVain h hunloaded
  obtain ⟨d₂, x₂⟩ := s₂
  rcases takes_of_loadIfNeeded (run_ensureLoaded hload) with ⟨hloaded, -, -⟩ |
    ⟨-, v, loaded, hrun, htakes⟩
  · rw [hd] at hloaded
    cases hloaded
  · cases htakes with
    | @whole document entries t hiterate hfills =>
      cases hfills with
      | whole hentries =>
        refine ⟨failed, v, document, entries, hfailed, hrun, hiterate, hentries, ?_⟩
        rw [hd, NameTable.takeIn_append]

/-- A look-up that fails in loading leaves the entries that could be read, and a directory that is
loaded in the end holds all of them in front of its listing. -/
theorem lookups_in_vain (loader : Task σ Json) (p : Profile) :
    (∀ s s', LooksInVain loader p s s' → Stained loader p s s') ∧
    ∀ s s₁ s₂ u, Relation.ReflTransGen (LooksInVain loader p) s s₁ → s.1.loaded = false →
      (alone loader (ensureLoaded p)).Run s₁ u (.ok ()) s₂ →
      ∃ (failed : List (Except Failure Json)) (v : List (Event World)) (document : Json)
        (entries : List Json), (∀ loaded ∈ failed, Loads loader p loaded) ∧
        (alone loader (load p)).Run s₁ v (.ok document) (s₁.1, s₂.2) ∧
        document.iterate = .ok entries ∧ (∀ entry ∈ entries, entry.isReadable = true) ∧
        s₂.1 = ⟨s.1.table.takeIn (failed.flatMap strays ++ entries), true⟩ :=
  ⟨fun _ _ h => h.stained, fun _ _ _ _ h hunloaded hload => table_of_load h hunloaded hload⟩

/-! ## A stray entry -/

/-- A loader that gives one result after the other. -/
def scripted : Task (List (Except Failure Json)) Json := do
  match ← get with
  | [] => return .arr []
  | r :: rest =>
    set rest
    Task.ofExcept r

/-- A metric, and an entry whose name is no key. -/
def brokenListing : Json :=
  .arr [.obj [("id", .str "M1"), ("name", .str "Placed Order")],
    .obj [("id", .str "M2"), ("name", .arr [.str "x"])]]

def soundListing : Json :=
  .arr [.obj [("id", .str "M9"), ("name", .str "Placed Order")]]

/-- The second look-up gives the id of the listing that failed. -/
theorem lookups_in_vain_stray : ∃ s₁ s₂ s₃ u v,
    LooksInVain scripted ⟨"metric", none⟩ (.empty, [.ok brokenListing, .ok soundListing]) s₁ ∧
    Stained scripted ⟨"metric", none⟩ (.empty, [.ok brokenListing, .ok soundListing]) s₁ ∧
    (alone scripted (ensureLoaded ⟨"metric", none⟩)).Run s₁ u (.ok ()) s₂ ∧
    (∃ failed : List (Except Failure Json), failed ≠ [] ∧
      s₂.1 = ⟨NameTable.takeIn [] (failed.flatMap strays ++ soundListing.items), true⟩) ∧
    (alone scripted (find ⟨"metric", none⟩ (.str "Placed Order"))).Run s₁ v
      (.ok (.str "M1")) s₃ := by
  have hvain : LooksInVain scripted ⟨"metric", none⟩
      (.empty, [.ok brokenListing, .ok soundListing])
      (⟨[(.str "Placed Order", .str "M1")], false⟩, [.ok soundListing]) :=
    .find (.str "Placed Order") (.call () (.here _)) rfl
  obtain ⟨hstained, hfinal⟩ := lookups_in_vain scripted ⟨"metric", none⟩
  have hlast : (Program.record World.smooth 2
      ((alone scripted (ensureLoaded ⟨"metric", none⟩)).start
        (⟨[(.str "Placed Order", .str "M1")], false⟩, [.ok soundListing]))).2.result? =
        some (.ok (), ⟨[(.str "Placed Order", .str "M1")], true⟩, []) := rfl
  have hfound : (Program.record World.smooth 2
      ((alone scripted (find ⟨"metric", none⟩ (.str "Placed Order"))).start
        (⟨[(.str "Placed Order", .str "M1")], false⟩, [.ok soundListing]))).2.result? =
        some (.ok (.str "M1"), ⟨[(.str "Placed Order", .str "M1")], true⟩, []) := rfl
  have hload := Program.reaches_of_record hlast
  obtain ⟨failed, v, document, entries, -, hrun, hiterate, -, hd⟩ :=
    hfinal _ _ _ _ (.single hvain) rfl hload
  obtain ⟨-, hend⟩ := Program.Reaches.of_done hrun
  cases hend
  cases hiterate
  refine ⟨_, _, _, _, _, hvain, hstained _ _ hvain, hload, ⟨failed, ?_, hd⟩,
    Program.reaches_of_record hfound⟩
  rintro rfl
  have hids : ["M1"] = ["M9"] :=
    congrArg (fun d : Directory => d.table.map fun x : Json × Json => x.2.text) hd
  exact absurd hids (by decide)

end Directory

end MarketingFlow
