import MarketingFlow.Proofs.Http.Ascii
import MarketingFlow.Proofs.Service.Delivery
import MarketingFlow.Service.Creation

/-!
# Where the content of emails goes

A build that succeeds gives every email with content a template of its own before the flow is
created, or stores its page in the content pass, or leaves a warning. There are two ways out: the
service may answer the creation without an id of the flow, and it may list fewer emails than there
are. In both the page of an email may be lost without a word.
-/

namespace MarketingFlow

open Outcome

/-! ## Tables -/

namespace Members

theorem value_set_of_ne {ms : Members} {key other : String} (h : other ≠ key) (v : Json) :
    (ms.set key v).value other = ms.value other := by
  induction ms with
  | nil => simp [set, value, find?, List.lookup_cons, beq_false_of_ne h]
  | cons m rest ih =>
    obtain ⟨k, w⟩ := m
    by_cases hk : k = key
    · subst hk
      simp [set, value, find?, List.lookup_cons, beq_false_of_ne h]
    · simp only [set, hk, if_false, value, find?, List.lookup_cons]
      cases other == k with
      | true => rfl
      | false => exact ih

theorem value_filter_of_pos {ms : Members} {p : String → Bool} {key : String} (h : p key = true) :
    value (ms.filter fun m => p m.1) key = ms.value key := by
  induction ms with
  | nil => rfl
  | cons m rest ih =>
    obtain ⟨k, w⟩ := m
    simp only [value, find?, List.filter_cons, List.lookup_cons] at ih ⊢
    by_cases hk : key = k
    · subst hk
      simp [h]
    · cases p k with
      | true => simpa [List.lookup_cons, beq_false_of_ne hk] using ih
      | false => simpa [beq_false_of_ne hk] using ih

end Members

/-- The first items of a list are all paired. -/
theorem exists_mem_zip_of_mem_take {α β : Type} {a : α} {xs : List α} {ys : List β}
    (h : a ∈ xs.take ys.length) : ∃ b, (a, b) ∈ xs.zip ys := by
  obtain ⟨i, hi, rfl⟩ := List.getElem_of_mem h
  have hlengths : i < xs.length ∧ i < ys.length := by
    rw [List.length_take] at hi
    omega
  refine ⟨ys[i], ?_⟩
  rw [List.getElem_take]
  exact List.mem_iff_getElem.mpr ⟨i, by simp; omega, by simp⟩

namespace Creator

variable {k : Creator}

/-! ## Before the creation -/

/-- The page is made from the content with some hosted images. -/
def IsPageOf (content : Json) (html : String) : Prop :=
  ∃ hosted, Email.hostedPage hosted content = .ok html

theorem ensures_prepare (k : Creator) (content : Json) :
    (k.prepare content).Ensures fun _ r => ∀ page, r = .ok page → IsPageOf content page.1 := by
  rw [prepare, Email.Uploads.prepare]
  refine .within (.ofExcept_bind (fun paths _ => ?_) ?_)
  · refine (Task.ensures_anything _).bind (fun _ warnings _ => .get_bind fun s => ?_) ?_
    · refine .ofExcept_bind (fun html hhtml => .pure ?_) ?_
      · rintro _ ⟨rfl⟩
        exact ⟨_, hhtml⟩
      · rintro e - page ⟨⟩
    · rintro _ e - page ⟨⟩
  · rintro e - page ⟨⟩

/-- The page of a letter comes into the tables, and perhaps its template. -/
structure Enters (letter : Letter) (done done' : Precreation) : Prop where
  pages : ∃ html, IsPageOf letter.content html ∧
    done'.pages = Members.set done.pages letter.action.id (.str html)
  templates : done'.templateIds = done.templateIds ∧ done'.applied = done.applied ∨
    ∃ id, done'.templateIds = Members.set done.templateIds letter.action.id id ∧
      done'.applied = done.applied + 1

/-- One letter after the other. -/
inductive EntersAll : List Letter → Precreation → Precreation → Prop where
  | nil (done : Precreation) : EntersAll [] done done
  | cons {letter : Letter} {rest : List Letter} {done done' prepared : Precreation}
      (henters : Enters letter done done') (h : EntersAll rest done' prepared) :
      EntersAll (letter :: rest) done prepared

theorem ensures_precreateEach (k : Creator) (letters : List Letter) (done : Precreation) :
    (k.precreateEach letters done).Ensures fun _ r => ∀ prepared, r = .ok prepared →
      EntersAll letters done prepared := by
  induction letters generalizing done with
  | nil =>
    rw [precreateEach]
    refine .pure ?_
    rintro _ ⟨rfl⟩
    exact .nil done
  | cons letter rest ih =>
    have hrest : ∀ done', Enters letter done done' →
        (k.precreateEach rest done').Ensures fun _ r => ∀ prepared, r = .ok prepared →
          EntersAll (letter :: rest) done prepared :=
      fun done' henters => (ih done').mono fun _ _ h prepared hr => .cons henters (h prepared hr)
    rw [precreateEach]
    refine (ensures_prepare k letter.content).bind ?_ ?_
    · rintro _ ⟨html, warnings⟩ hpage
      have hhtml : IsPageOf letter.content html := hpage _ rfl
      refine (Task.ensures_anything _).result_bind ?_
      rintro _ (f | created) -
      · dsimp only
        split
        · refine .throw ?_
          rintro prepared ⟨⟩
        · exact .quiet_bind fun _ => hrest _ ⟨⟨html, hhtml, rfl⟩, .inl ⟨rfl, rfl⟩⟩
      · dsimp only
        refine .ofExcept_bind (fun id _ => ?_) ?_
        · refine (Task.ensures_anything _).bind (fun _ _ _ => hrest _ ?_) ?_
          · split
            · exact ⟨⟨html, hhtml, rfl⟩, .inr ⟨id, rfl, rfl⟩⟩
            · exact ⟨⟨html, hhtml, rfl⟩, .inl ⟨rfl, rfl⟩⟩
          · rintro _ e - prepared ⟨⟩
        · rintro e - prepared ⟨⟩
    · rintro _ e - prepared ⟨⟩

/-- The pages of some letters are at hand. -/
def Prepared (letters : List Letter) (pages : Members) : Prop :=
  ∀ letter ∈ letters, ∃ html, IsPageOf letter.content html ∧
    pages.value letter.action.id = .str html

theorem EntersAll.value_of_notMem {letters : List Letter} {done prepared : Precreation}
    (h : EntersAll letters done prepared) {id : String}
    (hid : id ∉ letters.map fun letter => letter.action.id) :
    prepared.pages.value id = done.pages.value id := by
  induction h with
  | nil => rfl
  | cons henters _ ih =>
    rw [List.map_cons, List.mem_cons, not_or] at hid
    obtain ⟨⟨html, -, hpages⟩, -⟩ := henters
    rw [ih hid.2, hpages, Members.value_set_of_ne hid.1]

theorem EntersAll.prepared {letters : List Letter} {done prepared : Precreation}
    (h : EntersAll letters done prepared)
    (hids : (letters.map fun letter => letter.action.id).Nodup) :
    Prepared letters prepared.pages := by
  induction h with
  | nil => exact fun letter hletter => absurd hletter List.not_mem_nil
  | cons henters hrest ih =>
    obtain ⟨hfresh, hids⟩ := List.nodup_cons.mp hids
    obtain ⟨⟨html, hhtml, hpages⟩, -⟩ := henters
    refine List.forall_mem_cons.mpr ⟨⟨html, hhtml, ?_⟩, ih hids⟩
    rw [hrest.value_of_notMem hfresh, hpages, Members.value_set_self]

theorem nodup_map_id_letters {actions : List Action} (h : (actions.map Action.id).Nodup) :
    ((letters actions).map fun letter => letter.action.id).Nodup := by
  have hsublist : ((letters actions).map Letter.action).Sublist actions := by
    clear h
    induction actions with
    | nil => exact .slnil
    | cons a rest ih =>
      rw [letters, List.filterMap_cons]
      split
      · exact ih.cons a
      · rename_i letter hletter
        have haction : letter.action = a := by
          split at hletter
          · split at hletter
            · cases hletter
              rfl
            · cases hletter
          · cases hletter
        rw [List.map_cons, haction]
        exact ih.cons_cons a
  have hids := (hsublist.map Action.id).nodup h
  rwa [List.map_map] at hids

theorem ensures_precreate (k : Creator) {f : Flow} {ordered : List Action}
    (hf : f.traverse = .ok ordered) (hids : (ordered.map Action.id).Nodup) :
    (k.precreate f).Ensures fun _ r => ∀ prepared, r = .ok prepared →
      Prepared (letters ordered) prepared.pages := by
  rw [precreate, hf]
  change Task.Ensures (if (letters ordered).isEmpty = true then _ else _) _
  split
  · rename_i hempty
    refine .pure ?_
    rw [List.isEmpty_iff.mp hempty]
    rintro prepared -
    simp [Prepared]
  · refine .quiet_bind fun _ => ?_
    refine (ensures_precreateEach k _ _).mono fun _ _ h prepared hr => ?_
    exact (h prepared hr).prepared (nodup_map_id_letters hids)

theorem ensures_create (k : Creator) (creation : Payload.Creation) :
    (k.create creation).Ensures fun x r => ∀ flowId, r = .ok flowId →
      ∃ before e, x = before ++ [e] ∧ e.request.CreatesFlow ∧ e.reply.isSuccess = true := by
  rw [create]
  refine (ensures_call (k.client.ensures_createFlow creation.payload) _ _).bind ?_ ?_
  · rintro _ answer ⟨before, e, rfl, -, hcreates, hsuccess⟩
    refine .ofExcept fun flowId _ => ⟨before, e, by simp, hcreates, hsuccess⟩
  · rintro _ e - flowId ⟨⟩

/-! ## After the creation -/

/-- The pass never fails in a way that is foreseen; if it could not go through all emails, there is
a warning. -/
theorem yields_pass (k : Creator) {f : Flow} {ordered : List Action}
    (hf : f.traverse = .ok ordered) (flowId : Json) (url : Option String) (pending : Members) :
    (complete.pass k f flowId url pending).Yields fun x r => ∃ outcome, r = .ok outcome ∧
      (outcome.2 ≠ [] ∨ Passed flowId pending (emailIds ordered) x (.ok outcome)) := by
  rw [complete.pass]
  refine (k.yields_applyContent hf flowId pending).result_bind ?_ ?_ ?_
  · intro x outcome hx
    refine .pure ⟨outcome, rfl, .inr ?_⟩
    rwa [List.append_nil]
  · intro x e he _
    dsimp only
    rw [he]
    exact .quiet_bind fun _ => .pure ⟨_, rfl, .inl (by simp)⟩
  · intro e he
    dsimp only
    rw [he]
    exact .accident he

/-- The content pass does not get to an email: the flow has no id, or the service lists fewer emails
than it takes to come to this one. -/
def Overlooked (flowId : Json) (emails : List String) (id : String) (x : List Exchange) : Prop :=
  flowId.given = false ∨ ∃ listing ∈ x, ∃ resources, listing.Lists flowId resources ∧
    id ∉ emails.take (resources.countP Json.sendsEmail)

/-- What became of a page after the creation, given the warnings that were left then. -/
def Settled (prepared : Precreation) (flowId : Json) (emails : List String) (x : List Exchange)
    (late : List String) : Prop :=
  ∀ id ∈ emails, ∀ html, prepared.pages.value id = .str html →
    Members.has prepared.templateIds id = true ∨ Stored (.str html) x ∨ late ≠ [] ∨
      Overlooked flowId emails id x

theorem Precreation.value_pending {prepared : Precreation} {id html : String}
    (hhas : Members.has prepared.templateIds id = false)
    (hpage : prepared.pages.value id = .str html) : prepared.pending.value id = .str html := by
  rw [← hpage]
  exact Members.value_filter_of_pos (p := fun id => !Members.has prepared.templateIds id)
    (by simp [hhas])

theorem Passed.settled {prepared : Precreation} {flowId : Json} {emails : List String}
    {x : List Exchange} {outcome : Nat × List String}
    (h : Passed flowId prepared.pending emails x (.ok outcome)) :
    Settled prepared flowId emails x outcome.2 := by
  obtain ⟨e, ⟨⟩, -⟩ | ⟨_, before, listing, resources, rest, ⟨rfl⟩, rfl, -, hlists, -, hstored⟩ := h
  intro id hid html hpage
  cases hhas : Members.has prepared.templateIds id with
  | true => exact .inl rfl
  | false =>
    right
    by_cases htake : id ∈ emails.take (resources.countP Json.sendsEmail)
    · rw [List.countP_eq_length_filter] at htake
      obtain ⟨resource, hpair⟩ := exists_mem_zip_of_mem_take htake
      have hpending := Precreation.value_pending hhas hpage
      have hpage := hstored _ hpair (by rw [hpending]; exact Json.noConfusion)
      rw [hpending] at hpage
      rcases hpage with hpage | hlate
      · exact .inl ((List.append_cons before listing rest) ▸ .append (.inr hpage))
      · exact .inr (.inl hlate)
    · exact .inr (.inr (.inr ⟨listing, by simp, resources, hlists, htake⟩))

theorem settled_of_nothing {prepared : Precreation} {flowId : Json} {emails : List String}
    (h : (flowId.given && !prepared.pending.isEmpty) = false) :
    Settled prepared flowId emails [] [] := by
  intro id _ html hpage
  cases hhas : Members.has prepared.templateIds id with
  | true => exact .inl rfl
  | false =>
    have hne : prepared.pending ≠ [] := by
      intro hnil
      have hpending := Precreation.value_pending hhas hpage
      rw [hnil] at hpending
      cases hpending
    refine .inr (.inr (.inr (.inl ?_)))
    simpa [hne] using h

theorem yields_complete (k : Creator) {f : Flow} {ordered : List Action}
    (hf : f.traverse = .ok ordered) (r : BuildResult) (prepared : Precreation) (flowId : Json) :
    (k.complete f r prepared flowId).Yields fun x res => ∀ result, res = .ok result →
      result.templateIds = prepared.templateIds ∧ result.flowId = flowId ∧
        ∃ late, result.warnings = r.warnings ++ late ∧
          Settled prepared flowId (emailIds ordered) x late := by
  have hpass : ∀ url, (complete.pass k f flowId url prepared.pending).Yields fun x res =>
      ∃ outcome, res = .ok outcome ∧
        Settled prepared flowId (emailIds ordered) x outcome.2 := by
    refine fun url => (yields_pass k hf flowId url prepared.pending).mono ?_
    rintro x res - ⟨outcome, hres, hlate | hpassed⟩
    · exact ⟨outcome, hres, fun _ _ _ _ => .inr (.inr (.inl hlate))⟩
    · exact ⟨outcome, hres, hpassed.settled⟩
  refine (yields_completed hpass settled_of_nothing).mono ?_
  rintro x _ - ⟨outcome, images, rfl, hsettled⟩ _ ⟨rfl⟩
  exact ⟨rfl, rfl, outcome.2, rfl, hsettled⟩

/-! ## A build -/

/-- The account that a build gives of the content of emails: the warnings are those from before the
creation, those about splits and those from after it, and each email with content has a template of
its own, or has its page stored after the creation, or there is a warning about templates or pages,
or the content pass does not get to it. -/
def Accounted (k : Creator) (f : Flow) (x : List Exchange) (result : BuildResult) : Prop :=
  ∃ ordered compiled early late before creation after, f.traverse = .ok ordered ∧
    ordered.mapM (Payload.compileAction f.settings k.sender result.templateIds) = .ok compiled ∧
    result.warnings = early ++ compiled.filterMap Payload.Compiled.warning? ++ late ∧
    x = before ++ creation :: after ∧ creation.request.CreatesFlow ∧
    creation.reply.isSuccess = true ∧
    ∀ a ∈ f.actions, ∀ e, a.work = .email e → e.content.given = true →
      Members.has result.templateIds a.id = true ∨
        (∃ html, IsPageOf e.content html ∧ Stored (.str html) after) ∨ early ≠ [] ∨ late ≠ [] ∨
        Overlooked result.flowId (emailIds ordered) a.id after

theorem mem_letters_iff {actions : List Action} {letter : Letter} :
    letter ∈ letters actions ↔
      ∃ a ∈ actions, ∃ e, a.work = .email e ∧ e.content.given = true ∧ letter = ⟨a, e.content⟩ := by
  rw [letters, List.mem_filterMap]
  refine exists_congr fun a => and_congr_right fun _ => ?_
  cases a.work with
  | email e =>
    simp only [Option.ite_none_right_eq_some, Option.some.injEq, Work.email.injEq,
      exists_eq_left', eq_comm (b := letter)]
  | _ => simp

theorem mem_emailIds {actions : List Action} {a : Action} {e : Email} (ha : a ∈ actions)
    (hwork : a.work = .email e) : a.id ∈ emailIds actions := by
  refine List.mem_map_of_mem (List.mem_filter.mpr ⟨ha, ?_⟩)
  rw [Action.typeName, hwork]
  rfl

/-- A completion accounts for the content of emails whose pages were prepared. -/
theorem accounted_of_settled {k : Creator} {f : Flow} (hf : f.Linked) {ordered : List Action}
    (ht : f.traverse = .ok ordered) {prepared : Precreation} {creation : Payload.Creation}
    {compiled : List Payload.Compiled} {x y z : List Exchange} {result : BuildResult}
    {late : List String} (hprepared : Prepared (letters ordered) prepared.pages)
    (hcompiled : ordered.mapM (Payload.compileAction f.settings k.sender prepared.templateIds) =
      .ok compiled)
    (hholds : creation.Holds f ordered compiled)
    (hcreates : ∃ before e, y = before ++ [e] ∧ e.request.CreatesFlow ∧ e.reply.isSuccess = true)
    (htemplates : result.templateIds = prepared.templateIds)
    (hwarnings : result.warnings = prepared.warnings ++ creation.warnings ++ late)
    (hsettled : Settled prepared result.flowId (emailIds ordered) z late) :
    k.Accounted f (x ++ (y ++ z)) result := by
  obtain ⟨before, e, rfl, hcreates, hsuccess⟩ := hcreates
  rw [hholds.warnings] at hwarnings
  rw [← htemplates] at hcompiled
  refine ⟨ordered, compiled, prepared.warnings, late, x ++ before, e, z, ht, hcompiled, hwarnings,
    by simp, hcreates, hsuccess, ?_⟩
  intro a ha email hwork hgiven
  have hordered : a ∈ ordered := ((hf.enumerates ht).perm hf.ids).mem_iff.mpr ha
  have hletter : ⟨a, email.content⟩ ∈ letters ordered :=
    mem_letters_iff.mpr ⟨a, hordered, email, hwork, hgiven, rfl⟩
  obtain ⟨html, hhtml, hpage⟩ := hprepared _ hletter
  have hid : a.id ∈ emailIds ordered := mem_emailIds hordered hwork
  rw [htemplates]
  rcases hsettled a.id hid html hpage with h | h | h | h
  · exact .inl h
  · exact .inr (.inl ⟨html, hhtml, h⟩)
  · exact .inr (.inr (.inr (.inl h)))
  · exact .inr (.inr (.inr (.inr h)))

theorem yields_build (k : Creator) {f : Flow} (hf : f.Linked) :
    (k.build f).Yields fun x r => ∀ result, r = .ok result → result.success = true →
      k.Accounted f x result := by
  obtain ⟨ordered, ht, henumerates⟩ := hf.exists_traverse
  have hprecreate : (k.precreate f).Ensures fun _ r =>
      True ∧ ∀ p, r = .ok p → Prepared (letters ordered) p.pages :=
    (ensures_precreate k ht henumerates.nodup).mono fun _ _ h => ⟨trivial, h⟩
  have hpayload : ∀ p : Precreation,
      (Payload.ofFlow f (some k.names) k.sender p.templateIds : Work _).Ensures fun _ r =>
        True ∧ ∀ c, r = .ok c → ∃ compiled,
          ordered.mapM (Payload.compileAction f.settings k.sender p.templateIds) = .ok compiled ∧
            c.Holds f ordered compiled := by
    refine fun p => (Payload.ensures_ofFlow _ _ _ _).mono fun _ _ h => ⟨trivial, fun c hc => ?_⟩
    obtain ⟨ordered', compiled, ht', hcompiled, hholds⟩ := h c hc
    obtain rfl : ordered = ordered' := Except.ok.inj (ht.symm.trans ht')
    exact ⟨compiled, hcompiled, hholds⟩
  have hcreate : ∀ c, (k.create c).Ensures fun x r =>
      (∀ flowId, r = .ok flowId →
        ∃ before e, x = before ++ [e] ∧ e.request.CreatesFlow ∧ e.reply.isSuccess = true) ∧
      ∀ e, r = .error e → True :=
    fun c => (ensures_create k c).mono fun _ _ h => ⟨h, fun _ _ => trivial⟩
  refine yields_build_of_stages (E := fun _ => True) trivial (fun _ _ => trivial)
    (fun _ _ => Task.ensures_anything _) hprecreate hpayload hcreate ?_ ?_
  · rintro x warnings templates message e - _ ⟨rfl⟩ ⟨⟩
  · rintro x y p c flowId - hprepared ⟨compiled, hcompiled, hholds⟩ hcreates
    refine (yields_complete k ht _ p flowId).mono fun z r _ h result hr _ => ?_
    obtain ⟨htemplates, rfl, late, hwarnings, hsettled⟩ := h result hr
    exact accounted_of_settled hf ht hprepared hcompiled hholds hcreates htemplates hwarnings
      hsettled

/-- A successful build of a valid flow accounts for the content of every email. -/
theorem content_accounted {k : Creator} {f : Flow} {v : Verdict} {m m' : Memory}
    {t : List (Event World)} {result : BuildResult} (hv : f.validate = .ok v)
    (hvalid : v.valid = true)
    (h : Program.Reaches ((k.build f).start m) t (.done (.ok result, m')))
    (hsuccess : result.success = true) : k.Accounted f (exchanges t) result :=
  (k.yields_build (Flow.linked_of_valid hv hvalid)).reaches h (.ok result) result rfl hsuccess

end Creator

/-! ## A page that is lost -/

namespace Email

/-- A content without sections. -/
def blank : Json :=
  .obj [("sections", .arr [])]

def blankPage : String :=
  pageHead "600" "#ffffff" ++ "" ++ pageTail

theorem ascii_blankPage : Text.IsAscii blankPage.toList := by
  unfold blankPage pageHead pageTail fontStack
  repeat' with_reducible refine Text.IsAscii.text_append ?_ ?_
  all_goals exact .ofList (by decide)

end Email

theorem Creator.prepare_blank (k : Creator) :
    k.prepare Email.blank = pure (Email.blankPage, []) := by
  funext m
  rfl

theorem Creator.precreate_fork (k : Creator) :
    k.precreate .fork = Task.log .info "Pre-creating 1 email template(s)..." >>= fun _ =>
      k.precreateEach [⟨Flow.fork.second, Email.blank⟩] .none := by
  rw [precreate, Flow.traverse_fork]
  rfl

/-- The document that a template with a blank page is created from. -/
theorem Json.ascii_blankTemplate :
    Json.IsAscii (.obj [("data", .obj [("type", .str "template"),
      ("attributes", .obj [("name", .str "Second"), ("editor_type", .str "CODE"),
        ("html", .str Email.blankPage)])])]) := by
  simp only [IsAscii, HaveAscii, and_true]
  refine ⟨?_, ?_, ?_, ?_, ?_, ?_, ?_, ?_, ?_, Email.ascii_blankPage⟩
  all_goals decide

/-- An outside where whatever the service creates has no id. -/
def World.nameless : (c : World.Call) → World.Answer c
  | .send r =>
    Reply.answer 201 (if r.method = "GET" then "" else "\x7b\"data\":\x7b\x7d\x7d")
  | c => World.smooth c

/-- An email gets neither a template nor a page, and no warning is left: its flow has no id. -/
theorem Creator.fork_content_accounted :
    ∃ v t result m', Flow.fork.validate = .ok v ∧ v.valid = true ∧
      Program.Reaches ((nearby.build .fork).start .empty) t (.done (.ok result, m')) ∧
      result.success = true ∧ result.warnings = [] ∧ result.templateIds = [] ∧
      nearby.Accounted .fork (exchanges t) result := by
  have hlast : ((Program.record World.nameless 60
      ((nearby.build .fork).start .empty)).2.result?.bind fun x => x.1.toOption.map
        fun r => (r.success, r.warnings, r.templateIds.isEmpty)) = some (true, [], true) := by
    simp only [build, nearby, precreate_fork, precreateEach, prepare_blank, pure_bind,
      show Flow.fork.second.label = .str "Second" from rfl, Client.createTemplate, Client.send,
      Client.request, Content.toBody_of_ascii Json.noConfusion Json.ascii_blankTemplate]
    simp only [Payload.ofFlow, Flow.traverse_fork, create, Client.createFlow, Client.send,
      Client.request, Content.toBody_document]
    decide +kernel
  obtain ⟨⟨r, m'⟩, hlast, hr⟩ := Option.bind_eq_some_iff.mp hlast
  obtain ⟨result, rfl⟩ : ∃ result, r = .ok result := by
    cases r with
    | error e => cases hr
    | ok result => exact ⟨result, rfl⟩
  obtain ⟨hsuccess, hwarnings, htemplates⟩ : result.success = true ∧ result.warnings = [] ∧
      result.templateIds = [] := by
    simpa [Except.toOption] using hr
  have hrun := Program.reaches_of_record hlast
  exact ⟨_, _, result, m', Flow.validate_fork, rfl, hrun, hsuccess, hwarnings, htemplates,
    content_accounted Flow.validate_fork rfl hrun hsuccess⟩

end MarketingFlow
