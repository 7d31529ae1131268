import MarketingFlow.Proofs.Interaction.Traces
import MarketingFlow.Proofs.Service.Results

/-!
# Templates and the emails they are attached to

Before a flow is created, the emails with content get their templates one after the other: the page
of the email is prepared, and a template is created from it. The payload then carries the id of each
template at the email that it was made for, and at no other.
-/

namespace MarketingFlow

open Outcome

def Request.actions (r : Request) : List Json :=
  match r.body with
  | .json v =>
    let definition := ((v.member "data").member "attributes").member "definition"
    (definition.member "actions").items
  | _ => []

/-- The action is an email with this id whose message names the template. -/
def Json.Attaches (action : Json) (id : String) (template : Json) : Prop :=
  action.member "temporary_id" = .str id ∧ action.member "type" = .str "send-email" ∧
    ∃ message, (action.member "data").member "message" = .obj message ∧
      ("template_id", template) ∈ message

def Request.Attaches (r : Request) (id : String) (template : Json) : Prop :=
  ∃ action ∈ r.actions, action.Attaches id template

/-- No template is written and no flow created. -/
def World.Call.Preparatory : World.Call → Prop
  | .send r => ¬ r.WritesTemplate ∧ ¬ r.CreatesFlow
  | _ => True

instance : World.Call.Uploads World.Call.Preparatory where
  log _ _ := trivial
  sleep _ := trivial
  get r h := by
    refine ⟨?_, fun hcreates => absurd (h.symm.trans hcreates.1) (by decide)⟩
    rintro (⟨hmethod, -⟩ | ⟨hmethod, -⟩)
    · exact absurd (h.symm.trans hmethod) (by decide)
    · exact absurd (h.symm.trans hmethod) (by decide)
  upload r h hpath := by
    refine ⟨?_, fun hcreates => absurd (hpath.symm.trans hcreates.2) (by decide)⟩
    rintro (⟨-, htemplates⟩ | ⟨hmethod, -⟩)
    · exact absurd (hpath.symm.trans htemplates) (by decide)
    · exact absurd (h.symm.trans hmethod) (by decide)
  workingDirectory := trivial
  look _ := trivial
  fileBytes _ := trivial

/-! ## The templates of a payload -/

namespace Payload

variable {settings : Option Settings} {sender : Sender} {templates : TemplateIds} {id : String}
  {t : Json}

theorem exists_message_iff {e : Email} {template : Json} :
    (∃ message, (emailData e settings sender template).member "message" = .obj message ∧
      ("template_id", t) ∈ message) ↔ template = t ∧ t.given = true := by
  have hnames : ∀ message, (emailData e settings sender template).member "message" = .obj message →
      (("template_id", t) ∈ message ↔ template = t ∧ t.given = true) := by
    rintro _ ⟨⟩
    simp only [List.mem_append, List.mem_cons, Prod.mk.injEq, String.reduceEq, false_and,
      List.not_mem_nil, or_self, false_or]
    split
    · rename_i hgiven
      rw [List.mem_singleton, Prod.mk.injEq, eq_self, true_and]
      exact ⟨fun ht => ⟨ht.symm, ht ▸ hgiven⟩, fun ht => ht.1.symm⟩
    · rename_i hgiven
      refine iff_of_false List.not_mem_nil ?_
      rintro ⟨rfl, ht⟩
      exact hgiven ht
  exact ⟨fun ⟨message, hmessage, ht⟩ => (hnames message hmessage).mp ht,
    fun ht => ⟨_, rfl, (hnames _ rfl).mpr ht⟩⟩

theorem attaches_toJson_iff {a : Action} {c : Compiled}
    (h : compileAction settings sender templates a = .ok c) :
    c.toJson.Attaches id t ↔
      (∃ e, a.work = .email e) ∧ a.id = id ∧ templates.value a.id = t ∧ t.given = true := by
  obtain ⟨⟨data, fidelity⟩, hdata, hc⟩ := bind_eq_ok_iff.mp h
  cases hc
  have hmembers : (Compiled.toJson ⟨a, data, fidelity⟩).Attaches id t ↔ a.id = id ∧
      a.work.typeName = "send-email" ∧
        ∃ message, data.member "message" = .obj message ∧ ("template_id", t) ∈ message := by
    rw [← Json.str.injEq a.id, ← Json.str.injEq a.work.typeName]
    exact Iff.rfl
  rw [hmembers]
  rw [actionData] at hdata
  cases hwork : a.work with
  | email e =>
    rw [hwork] at hdata
    cases hdata
    rw [exists_message_iff]
    simp [Work.typeName]
  | unknown type =>
    rw [hwork] at hdata
    cases hdata
  | _ => simp [Work.typeName]

/-- A payload names the templates of the table, each at the email that it is for. -/
theorem Creation.Holds.attaches_iff {c : Creation} {f : Flow} {ordered : List Action}
    {compiled : List Compiled} (hc : c.Holds f ordered compiled)
    (h : ordered.mapM (compileAction f.settings sender templates) = .ok compiled) :
    (∃ action ∈ c.actions, action.Attaches id t) ↔
      ∃ a ∈ ordered, (∃ e, a.work = .email e) ∧ a.id = id ∧ templates.value a.id = t ∧
        t.given = true := by
  rw [hc.actions_eq]
  constructor
  · rintro ⟨_, hmem, hattaches⟩
    obtain ⟨c, hc, rfl⟩ := List.mem_map.mp hmem
    obtain ⟨a, ha, hcompile⟩ := (mem_iff_of_mapM h).mp hc
    exact ⟨a, ha, (attaches_toJson_iff hcompile).mp hattaches⟩
  · rintro ⟨a, ha, hattached⟩
    obtain ⟨c, hcompile⟩ := mapM_eq_ok_iff.mp ⟨compiled, h⟩ a ha
    exact ⟨c.toJson, List.mem_map_of_mem ((mem_iff_of_mapM h).mpr ⟨a, ha, hcompile⟩),
      (attaches_toJson_iff hcompile).mpr hattached⟩

end Payload

/-! ## Templates made beforehand -/

open World.Call

namespace Creator

/-- What comes of a letter before the flow is created: what happens while its page is prepared, the
page, what happens while a template is created from it, and the id that the template is given. -/
structure Precreated where
  letter : Letter
  preparation : List (Event World)
  page : String
  creation : List (Event World)
  id : Json

def createFrom (k : Creator) (letter : Letter) (page : String) : Work Json :=
  call (k.client.createTemplate letter.action.label (.str page))
    ("Create template for \"" ++ letter.action.label.text ++ "\"") 2

namespace Precreated

def exchanged (p : Precreated) : List Exchange :=
  exchanges p.preparation ++ exchanges p.creation

/-- The templates that were given ids, under the ids of their emails. -/
def entries (ps : List Precreated) : TemplateIds :=
  (ps.filter fun p => p.id.given).map fun p => (p.letter.action.id, p.id)

theorem entries_cons (p : Precreated) (ps : List Precreated) :
    entries (p :: ps) = entries [p] ++ entries ps := by
  rw [entries, entries, entries, ← List.map_append, ← List.filter_append, List.singleton_append]

theorem mem_entries_iff {ps : List Precreated} {id : String} {t : Json} :
    (id, t) ∈ entries ps ↔ ∃ p ∈ ps, p.letter.action.id = id ∧ p.id = t ∧ t.given = true := by
  simp only [entries, List.mem_map, List.mem_filter, Prod.mk.injEq]
  constructor
  · rintro ⟨p, ⟨hp, hgiven⟩, hid, rfl⟩
    exact ⟨p, hp, hid, rfl, hgiven⟩
  · rintro ⟨p, hp, hid, rfl, hgiven⟩
    exact ⟨p, ⟨hp, hgiven⟩, hid, rfl⟩

theorem value_entries_iff {ps : List Precreated}
    (hids : (ps.map fun p => p.letter.action.id).Nodup) {id : String} {t : Json}
    (ht : t.given = true) :
    (entries ps).value id = t ↔ ∃ p ∈ ps, p.letter.action.id = id ∧ p.id = t ∧ t.given = true := by
  have hkeys : (entries ps).keys.Nodup := by
    rw [Members.keys, entries, List.map_map]
    exact (List.filter_sublist.map _).nodup hids
  rw [← mem_entries_iff, ← Members.find?_eq_some_iff hkeys]
  exact ⟨fun h => Members.find?_of_value h (Json.given_ne_null ht), Members.value_of_find?⟩

/-- The call to create a template returned a document with this id in its last attempt, or it never
returned, and there is no id. -/
def Answered (x : List Exchange) (id : Json) : Prop :=
  (∃ before e document, x = before ++ [e] ∧ (∀ b ∈ before, b.returned? = none) ∧
    e.returned? = some document ∧ id = (document.member "data").member "id") ∨
  (∀ e ∈ x, e.returned? = none) ∧ id = .null

/-- Between two states of the memory, the page was prepared for the content of the letter, and all
that was asked for is a template from this page. -/
structure Holds (k : Creator) (p : Precreated) (m m' : Memory) : Prop where
  runs : ∃ warnings between answer,
    (k.prepare p.letter.content).Run m p.preparation (.ok (p.page, warnings)) between ∧
      (k.createFrom p.letter p.page).Run between p.creation answer m'
  preparatory : ∀ e ∈ exchanges p.preparation, ¬ e.request.WritesTemplate ∧ ¬ e.request.CreatesFlow
  posted : ∀ e ∈ exchanges p.creation, e.request.CreatesTemplate ∧ e.request.html = .str p.page
  answered : Answered (exchanges p.creation) p.id

theorem answered_of_returning {x : List Exchange} {created id : Json}
    (h : Returning x (.ok created)) (hid : createdId created = .ok id) : Answered x id := by
  obtain ⟨before, e, rfl, hbefore, he⟩ := h
  obtain ⟨-, -, rfl⟩ := Json.get_get_eq_ok_iff.mp hid
  exact .inl ⟨before, e, created, rfl, hbefore, he, rfl⟩

end Precreated

/-- One letter after the other, each with the memory that the one before it left. -/
inductive Precreates (k : Creator) : Memory → List Precreated → Memory → Prop where
  | none (m : Memory) : Precreates k m [] m
  | next {m m₁ m' : Memory} {p : Precreated} {ps : List Precreated} (hp : p.Holds k m m₁)
      (h : Precreates k m₁ ps m') : Precreates k m (p :: ps) m'

variable {k : Creator} {m m' : Memory} {u : List (Event World)}

theorem run_pause_bind {α : Type} {f : Unit → Work α} {r : Except Failure α}
    (h : (k.pause >>= f).Run m u r m') :
    ∃ v, exchanges u = exchanges v ∧ (f ()).Run m v r m' := by
  rw [pause] at h
  split at h
  · obtain ⟨_, v, rfl, hrest⟩ := Task.run_ask_bind h
    exact ⟨v, rfl, hrest⟩
  · exact ⟨u, rfl, h⟩

/-- The first letter gets its page and perhaps its template, and then the others follow. -/
theorem run_precreateEach_cons {letter : Letter} {rest : List Letter} {done prepared : Precreation}
    (hnew : letter.action.id ∉ Members.keys done.templateIds)
    (h : (k.precreateEach (letter :: rest) done).Run m u (.ok prepared) m') :
    ∃ (p : Precreated) (done' : Precreation) (m₁ : Memory) (w : List (Event World)),
      p.letter = letter ∧ p.Holds k m m₁ ∧
        done'.templateIds = done.templateIds ++ Precreated.entries [p] ∧
        exchanges u = p.exchanged ++ exchanges w ∧
        (k.precreateEach rest done').Run m₁ w (.ok prepared) m' := by
  rw [precreateEach] at h
  obtain ⟨v, _, ⟨html, warnings⟩, between, rfl, hprepare, hcreation⟩ | ⟨_, hfailed, -⟩ :=
    Task.run_bind h
  · obtain ⟨x, y, answer, m₁, rfl, hcreate, hafter⟩ := Task.run_result_bind hcreation
    have hpreparatory :=
      (k.plain_prepare (P := Preparatory) letter.content).ensures.reaches hprepare
    obtain ⟨hreturning, hasked⟩ := ((returning_call
      (k.client.returning_createTemplate letter.action.label (.str html)) _ _).and
        (ensures_call (k.client.ensures_createTemplate_post letter.action.label (.str html))
          _ _)).reaches hcreate
    have hp : ∀ id, Precreated.Answered (exchanges x) id →
        Precreated.Holds k ⟨letter, v, html, x, id⟩ m m₁ := fun id hid =>
      ⟨⟨warnings, between, answer, hprepare, hcreate⟩, hpreparatory, hasked.forall_mem, hid⟩
    rcases answer with e | created
    · dsimp only at hafter
      split at hafter
      · cases (Task.run_ofExcept hafter).2.1
      · obtain ⟨_, w, rfl, hmore⟩ := Task.run_ask_bind hafter
        refine ⟨_, _, m₁, w, rfl, hp .null (.inr ⟨hreturning, rfl⟩), ?_, ?_, hmore⟩
        · simp [Precreated.entries, Json.given]
        · simp [Precreated.exchanged]
    · dsimp only at hafter
      obtain ⟨_, y, id, m₂, rfl, hread, hpause⟩ | ⟨_, hfailed, -⟩ := Task.run_bind hafter
      · obtain ⟨rfl, hid, hsame⟩ := Task.run_ofExcept hread
        obtain ⟨w, hw, hmore⟩ := run_pause_bind hpause
        rw [hsame] at hmore
        refine ⟨_, _, m₁, w, rfl,
          hp id (Precreated.answered_of_returning hreturning hid.symm), ?_, ?_, hmore⟩
        · by_cases hgiven : id.given
          · rw [if_pos hgiven, Members.set_of_notMem hnew]
            simp [Precreated.entries, hgiven]
          · rw [if_neg hgiven]
            simp [Precreated.entries, hgiven]
        · simp [Precreated.exchanged, hw]
      · cases hfailed
  · cases hfailed

theorem run_precreateEach {letters : List Letter} {done prepared : Precreation}
    (hids : (letters.map fun letter => letter.action.id).Nodup)
    (hfresh : ∀ letter ∈ letters, letter.action.id ∉ Members.keys done.templateIds)
    (h : (k.precreateEach letters done).Run m u (.ok prepared) m') :
    ∃ ps, Precreates k m ps m' ∧ ps.map Precreated.letter = letters ∧
      exchanges u = ps.flatMap Precreated.exchanged ∧
      prepared.templateIds = done.templateIds ++ Precreated.entries ps := by
  induction letters generalizing done m u with
  | nil =>
    rw [precreateEach] at h
    obtain ⟨rfl, hprepared, rfl⟩ := Task.run_ofExcept h
    cases hprepared
    exact ⟨[], .none _, rfl, rfl, by simp [Precreated.entries]⟩
  | cons letter rest ih =>
    -- The table grows at its end, because the id of the letter is new to it.
    rw [List.map_cons, List.nodup_cons] at hids
    obtain ⟨hletter, hids⟩ := hids
    obtain ⟨hnew, hrest⟩ := List.forall_mem_cons.mp hfresh
    obtain ⟨p, done', m₁, v, rfl, hp, hdone, hu, hmore⟩ := run_precreateEach_cons hnew h
    have hfresh' : ∀ other ∈ rest, other.action.id ∉ Members.keys done'.templateIds := by
      intro other hother
      have hne : p.letter.action.id ≠ other.action.id :=
        fun hid => hletter (hid ▸ List.mem_map_of_mem hother)
      rw [hdone, Members.keys_append, List.mem_append, not_or]
      refine ⟨hrest other hother, fun hmem => ?_⟩
      obtain ⟨⟨_, t⟩, hentry, rfl⟩ := List.mem_map.mp hmem
      obtain ⟨q, hq, hid, -⟩ := Precreated.mem_entries_iff.mp hentry
      rw [List.mem_singleton.mp hq] at hid
      exact hne hid
    obtain ⟨ps, hps, hletters, hv, htemplates⟩ := ih hids hfresh' hmore
    refine ⟨p :: ps, .next hp hps, by rw [List.map_cons, hletters], ?_, ?_⟩
    · rw [hu, hv, List.flatMap_cons]
    · rw [htemplates, hdone, List.append_assoc, ← Precreated.entries_cons]

theorem run_precreate {f : Flow} {ordered : List Action} (hf : f.traverse = .ok ordered)
    {prepared : Precreation} (h : (k.precreate f).Run m u (.ok prepared) m') :
    ∃ ps, Precreates k m ps m' ∧ ps.map Precreated.letter = letters ordered ∧
      exchanges u = ps.flatMap Precreated.exchanged ∧
      prepared.templateIds = Precreated.entries ps := by
  rw [precreate, hf] at h
  replace h : Task.Run (if (letters ordered).isEmpty = true then _ else _) _ _ _ _ := h
  split at h
  · rename_i hempty
    obtain ⟨rfl, hprepared, rfl⟩ := Task.run_ofExcept h
    cases hprepared
    exact ⟨[], .none _, (List.isEmpty_iff.mp hempty).symm, rfl, rfl⟩
  · obtain ⟨_, v, rfl, hmore⟩ := Task.run_ask_bind h
    rw [exchanges_cons_unsent]
    exact run_precreateEach (nodup_map_id_letters (Flow.nodup_map_id_of_traverse hf))
      (by simp [Precreation.none]) hmore

/-- The table that the letters of a flow lead to has a template for an email if and only if the
email has content and its letter was given this template. -/
theorem attached_iff {ordered : List Action} {ps : List Precreated}
    (hids : (ordered.map Action.id).Nodup) (hps : ps.map Precreated.letter = letters ordered)
    {id : String} {t : Json} :
    (∃ a ∈ ordered, (∃ e, a.work = .email e) ∧ a.id = id ∧
      Members.value (Precreated.entries ps) a.id = t ∧ t.given = true) ↔
    ∃ a ∈ ordered, ∃ e, a.work = .email e ∧ e.content.given = true ∧ a.id = id ∧
      ∃ p ∈ ps, p.letter = ⟨a, e.content⟩ ∧ p.id = t ∧ t.given = true := by
  have hnodup : (ps.map fun p => p.letter.action.id).Nodup := by
    have hletters := nodup_map_id_letters hids
    rwa [← hps, List.map_map] at hletters
  constructor
  · rintro ⟨a, ha, -, hid, hvalue, ht⟩
    obtain ⟨p, hp, hpid, hpt, -⟩ := (Precreated.value_entries_iff hnodup ht).mp hvalue
    have hletter : p.letter ∈ letters ordered := hps ▸ List.mem_map_of_mem hp
    obtain ⟨b, hb, e, hwork, hgiven, hpletter⟩ := mem_letters_iff.mp hletter
    obtain rfl : b = a := by
      rw [hpletter] at hpid
      exact List.inj_on_of_nodup_map hids hb ha hpid
    exact ⟨b, hb, e, hwork, hgiven, hid, p, hp, hpletter, hpt, ht⟩
  · rintro ⟨a, ha, e, hwork, -, hid, p, hp, hletter, hpt, ht⟩
    refine ⟨a, ha, ⟨e, hwork⟩, hid, (Precreated.value_entries_iff hnodup ht).mpr ?_, ht⟩
    exact ⟨p, hp, by rw [hletter], hpt, ht⟩

/-! ## A build -/

def Bare (x : List Exchange) : Prop :=
  ∀ e ∈ x, ¬ e.request.CreatesFlow

theorem bare_nil : Bare [] := by
  simp [Bare]

theorem Bare.append {x y : List Exchange} (hx : Bare x) (hy : Bare y) : Bare (x ++ y) :=
  List.forall_mem_append.mpr ⟨hx, hy⟩

theorem run_fail {r₀ : BuildResult} {e : Failure} {r : Except Failure BuildResult}
    (h : (fail r₀ e).Run m u r m') :
    Bare (exchanges u) ∧ ∀ result, r = .ok result → result.success = r₀.success := by
  obtain ⟨hnothing, hsuccess⟩ := (ensures_fail r₀ e).reaches h
  exact ⟨hnothing ▸ bare_nil, hsuccess⟩

/-- The stages of a build up to the creation of the flow, and what the result then has. -/
theorem bare_or_run_build {f : Flow} {t : List (Event World)} {r : Except Failure BuildResult}
    (h : (k.build f).Run m t r m') : Bare (exchanges t) ∨
      ∃ v₁ v₂ v₃ v₄ v₅ m₁ m₂ m₃ m₄ prepared creation created,
        exchanges t = exchanges v₁ ++ (exchanges v₂ ++ (exchanges v₃ ++
          (exchanges v₄ ++ exchanges v₅))) ∧
        (call k.client.ping "Check API connection" 3).Run m v₁ (.ok ()) m₁ ∧
        (k.precreate f).Run m₁ v₂ (.ok prepared) m₂ ∧
        (Payload.ofFlow f (some k.names) k.sender prepared.templateIds).Run m₂ v₃ (.ok creation)
          m₃ ∧
        (k.create creation).Run m₃ v₄ created m₄ ∧ Bare (exchanges v₅) ∧
        ∀ result, r = .ok result → result.success = true →
          result.templateIds = prepared.templateIds := by
  rw [build] at h
  obtain ⟨_, t, rfl, hcheck⟩ := Task.run_ask_bind h
  rw [exchanges_cons_unsent]
  -- A stage that fails ends the build, and no flow was asked for until then.
  split at hcheck
  · exact .inl (run_fail hcheck).1
  · obtain ⟨v₁, t, pinged, m₁, rfl, hping, hpinged⟩ := Task.run_result_bind hcheck
    have h₁ : Bare (exchanges v₁) :=
      (plain_call (P := Plain) k.client.plain_ping _ _).ensures.reaches hping
    rw [exchanges_append]
    rcases pinged with e | _
    · dsimp only at hpinged
      split at hpinged
      · exact .inl (h₁.append (run_fail hpinged).1)
      · obtain ⟨_, v, rfl, hrefuse⟩ := Task.run_ask_bind hpinged
        obtain ⟨rfl, -, -⟩ := Task.run_ofExcept hrefuse
        rw [exchanges_cons_unsent]
        exact .inl (h₁.append bare_nil)
    · obtain ⟨v₂, t, prepared, m₂, rfl, hprecreate, hprepared⟩ := Task.run_result_bind hpinged
      have h₂ : Bare (exchanges v₂) :=
        (plain_precreate (P := Plain) k f).ensures.reaches hprecreate
      rw [exchanges_append]
      rcases prepared with e | prepared
      · exact .inl (h₁.append (h₂.append (run_fail hprepared).1))
      · obtain ⟨v₃, t, creation, m₃, rfl, hpayload, hcompiled⟩ := Task.run_result_bind hprepared
        have h₃ : Bare (exchanges v₃) :=
          (plain_payload (P := Plain) k f _).ensures.reaches hpayload
        rw [exchanges_append]
        rcases creation with e | creation
        · exact .inl (h₁.append (h₂.append (h₃.append (run_fail hcompiled).1)))
        · obtain ⟨v₄, v₅, created, m₄, rfl, hcreate, hcreated⟩ := Task.run_result_bind hcompiled
          rw [exchanges_append]
          refine .inr ⟨v₁, v₂, v₃, v₄, v₅, m₁, m₂, m₃, m₄, prepared, creation, created, rfl, hping,
            hprecreate, hpayload, hcreate, ?_⟩
          rcases created with e | flowId
          · obtain ⟨h₅, hsuccess⟩ := run_fail hcreated
            refine ⟨h₅, fun result hr htrue => ?_⟩
            rw [hsuccess result hr] at htrue
            cases htrue
          · refine ⟨(plain_complete (P := Plain) k f _ _ _).ensures.reaches hcreated, ?_⟩
            rintro result rfl -
            obtain ⟨_, ⟨rfl⟩, -, -, -, -, -, htemplates, -⟩ :=
              (k.yields_complete_once _ prepared flowId).reaches hcreated (.ok result)
            exact htemplates

theorem ensures_create_payload (k : Creator) (creation : Payload.Creation) :
    (k.create creation).Ensures fun x _ => ∀ e ∈ x, e.request.CreatesFlow ∧
      (creation.payload ≠ .null → e.request.body = .json creation.payload) := by
  rw [create]
  refine (ensures_call (k.client.ensures_createFlow_payload creation.payload) _ _).bind ?_ ?_
  · rintro x document hasked
    refine .ofExcept ?_
    rw [List.append_nil]
    exact hasked.forall_mem
  · exact fun x e hasked => hasked.forall_mem

theorem Precreates.bare {ps : List Precreated} (h : Precreates k m ps m') :
    Bare (ps.flatMap Precreated.exchanged) := by
  induction h with
  | none m => exact bare_nil
  | next hp h ih =>
    rw [List.flatMap_cons]
    refine .append (.append (fun e he => (hp.preparatory e he).2) fun e he hcreates => ?_) ih
    have hpath := (hp.posted e he).1.2
    exact absurd (hpath.symm.trans hcreates.2) (by decide)

/-- What a build attaches templates to, with what it exchanges and what came of the letters of the
flow, one for each email with content. -/
structure Attached (k : Creator) (f : Flow) (m : Memory) (x : List Exchange)
    (r : Except Failure BuildResult) (ps : List Precreated) : Prop where
  emails : ∃ ordered, f.traverse = .ok ordered ∧ ordered.Perm f.actions ∧
    ps.map Precreated.letter = letters ordered
  /-- Once the service was reached, all that is written before the flow is their templates. -/
  run : ∃ start m₁ m₂ middle creation after,
    (call k.client.ping "Check API connection" 3).Run m start (.ok ()) m₁ ∧ Precreates k m₁ ps m₂ ∧
      x = exchanges start ++ ps.flatMap Precreated.exchanged ++ middle ++ creation :: after ∧
      creation.request.CreatesFlow ∧
      ∀ e ∈ exchanges start ++ middle, ¬ e.request.WritesTemplate ∧ ¬ e.request.CreatesFlow
  /-- Wherever the flow is asked for, it has these templates at these emails. -/
  attaches : ∀ e ∈ x, e.request.CreatesFlow → ∀ id t, e.request.Attaches id t ↔
    ∃ a ∈ f.actions, ∃ email, a.work = .email email ∧ email.content.given = true ∧ a.id = id ∧
      ∃ p ∈ ps, p.letter = ⟨a, email.content⟩ ∧ p.id = t ∧ t.given = true
  reported : ∀ result, r = .ok result → result.success = true →
    result.templateIds = Precreated.entries ps

/-- A build of a valid flow that gets as far as to ask for the flow has prepared the page of each
email with content and asked for a template with that page; the flow has at each email the template
that was created from its page, if there is one, and no other; and a success reports all of them. -/
theorem templates_attached {f : Flow} {v : Verdict} {t : List (Event World)}
    {r : Except Failure BuildResult} (hv : f.validate = .ok v) (hvalid : v.valid = true)
    (h : (k.build f).Run m t r m') (hcreates : ∃ e ∈ exchanges t, e.request.CreatesFlow) :
    ∃ ps, Attached k f m (exchanges t) r ps := by
  have hf := Flow.linked_of_valid hv hvalid
  obtain ⟨ordered, htraverse, henumerates⟩ := hf.exists_traverse
  have hperm := henumerates.perm hf.ids
  obtain ⟨e₀, he₀, hcreates₀⟩ := hcreates
  obtain hbare | ⟨v₁, v₂, v₃, v₄, v₅, m₁, m₂, m₃, m₄, prepared, creation, created, ht, hping,
    hprecreate, hpayload, hcreate, h₅, hresult⟩ := bare_or_run_build h
  · exact absurd hcreates₀ (hbare e₀ he₀)
  · obtain ⟨ps, hps, hletters, hexchanged, htemplates⟩ := run_precreate htraverse hprecreate
    have h₁ : ∀ e ∈ exchanges v₁, (send e.request).Preparatory :=
      (plain_call k.client.plain_ping _ _).ensures.reaches hping
    have h₂ : Bare (exchanges v₂) := hexchanged ▸ hps.bare
    have h₃ : ∀ e ∈ exchanges v₃, (send e.request).Preparatory :=
      (k.plain_payload f _).ensures.reaches hpayload
    have h₄ := (k.ensures_create_payload creation).reaches hcreate
    -- A request to create the flow can only be one of those that are meant to.
    have honly : ∀ e ∈ exchanges t, e.request.CreatesFlow → e ∈ exchanges v₄ := by
      intro e he hcreates
      rw [ht] at he
      simp only [List.mem_append] at he
      rcases he with he | he | he | he | he
      · exact absurd hcreates (h₁ e he).2
      · exact absurd hcreates (h₂ e he)
      · exact absurd hcreates (h₃ e he).2
      · exact he
      · exact absurd hcreates (h₅ e he)
    refine ⟨ps, ⟨ordered, htraverse, hperm, hletters⟩, ?_, ?_, ?_⟩
    · obtain ⟨first, after, hfirst⟩ := List.exists_cons_of_ne_nil
        (List.ne_nil_of_mem (honly e₀ he₀ hcreates₀))
      refine ⟨v₁, m₁, m₂, exchanges v₃, first, after ++ exchanges v₅, hping, hps, ?_,
        (h₄ first (by simp [hfirst])).1, List.forall_mem_append.mpr ⟨h₁, h₃⟩⟩
      rw [ht, hexchanged, hfirst]
      simp
    · intro e he hcreates id t
      obtain ⟨ordered', compiled, htraverse', hcompiled, hholds⟩ :=
        (Payload.ensures_ofFlow f _ _ _).reaches hpayload creation rfl
      rw [htraverse] at htraverse'
      cases htraverse'
      have hbody : e.request.body = .json creation.payload := by
        refine (h₄ e (honly e he hcreates)).2 ?_
        obtain ⟨trigger, hdocument⟩ := hholds.payload
        rw [hdocument]
        exact Json.noConfusion
      have hattaches : e.request.Attaches id t ↔
          ∃ action ∈ creation.actions, action.Attaches id t := by
        rw [Request.Attaches, Request.actions, hbody]
        exact Iff.rfl
      rw [htemplates] at hcompiled
      rw [hattaches, hholds.attaches_iff hcompiled, attached_iff henumerates.nodup hletters]
      exact exists_congr fun a => and_congr_left' hperm.mem_iff
    · exact fun result hr hsuccess => (hresult result hr hsuccess).trans htemplates

/-- The email with content has the template that was created for it, and the result reports it. -/
theorem second_attached :
    ∃ v t result m' ps, Flow.fork.validate = .ok v ∧ v.valid = true ∧
      (nearby.build .fork).Run .empty t (.ok result) m' ∧ result.success = true ∧
      (result.templateIds.map fun entry => (entry.1, entry.2.text)) = [("second", "F1")] ∧
      Attached nearby .fork .empty (exchanges t) (.ok result) ps := by
  have hlast : ((Program.record World.smooth 60
      ((nearby.build .fork).start .empty)).2.result?.bind fun x => x.1.toOption.map
        fun r => (r.success, r.templateIds.map fun entry => (entry.1, entry.2.text))) =
          some (true, [("second", "F1")]) := by
    simp only [build, nearby, precreate_fork, precreateEach, prepare_blank, pure_bind,
      show Flow.fork.second.label = .str "Second" from rfl, Client.createTemplate, Client.send,
      Client.request, Content.toBody_of_ascii Json.noConfusion Json.ascii_blankTemplate]
    simp only [Payload.ofFlow, Flow.traverse_fork, create, Client.createFlow, Client.send,
      Client.request, Content.toBody_document]
    decide +kernel
  obtain ⟨⟨_ | result, m'⟩, hlast, hresult⟩ := Option.bind_eq_some_iff.mp hlast
  · cases hresult
  · obtain ⟨hsuccess, hids⟩ := Prod.mk.inj (Option.some.inj hresult)
    have hrun := Program.reaches_of_record hlast
    obtain ⟨_, ⟨rfl⟩, hfailed | hsucceeded⟩ :=
      (nearby.yields_build_consistent .fork).reaches hrun (.ok result)
    · rw [hfailed.success] at hsuccess
      cases hsuccess
    · obtain ⟨before, creation, after, document, hx, hcreation, -⟩ := hsucceeded.created
      have hcreates : ∃ e ∈ exchanges (Program.record World.smooth 60
          ((nearby.build .fork).start .empty)).1, e.request.CreatesFlow := by
        rw [hx]
        exact ⟨creation, by simp, hcreation.1⟩
      obtain ⟨ps, hps⟩ := templates_attached Flow.validate_fork rfl hrun hcreates
      exact ⟨_, _, result, m', ps, Flow.validate_fork, rfl, hrun, hsuccess, hids, hps⟩

end Creator

end MarketingFlow
