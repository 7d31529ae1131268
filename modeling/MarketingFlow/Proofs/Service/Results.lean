import MarketingFlow.Proofs.Json.Rearrangement
import MarketingFlow.Proofs.Service.EmailContent
import MarketingFlow.Proofs.Service.Returns

/-!
# Results of builds

Whatever the service replies, a build ends with an accident or with a result of one of two shapes.
A failure has errors and reports nothing, and no call to create a flow returned while it was made. A
success has no errors and reports on the one flow that was created.
-/

namespace MarketingFlow

open Outcome

/-- The call to create a flow returns this document. -/
def Exchange.Creates (document : Json) (e : Exchange) : Prop :=
  e.request.CreatesFlow ∧ e.returned? = some document

theorem Exchange.Creates.createdId_eq {document : Json} {e : Exchange} (h : e.Creates document) :
    Creator.createdId document = .ok ((document.member "data").member "id") := by
  obtain ⟨⟨hmethod, hpath⟩, hreturned⟩ := h
  rw [returned?] at hreturned
  split at hreturned
  · split at hreturned
    · rename_i hfits
      cases hreturned
      rw [hmethod, hpath, fitsCall, if_neg (by decide), if_pos rfl, if_pos rfl] at hfits
      obtain ⟨hrecord, -⟩ := Bool.and_eq_true_iff.mp hfits
      obtain ⟨hobject, hdata⟩ := Bool.and_eq_true_iff.mp hrecord
      exact Json.get_get_eq_ok_iff.mpr ⟨hobject, hdata, rfl⟩
    · cases hreturned
  · cases hreturned

/-- No call to create a flow returned. -/
def Uncreated (x : List Exchange) : Prop :=
  ∀ e ∈ x, ∀ document, ¬ e.Creates document

theorem Uncreated.append {x y : List Exchange} (hx : Uncreated x) (hy : Uncreated y) :
    Uncreated (x ++ y) :=
  List.forall_mem_append.mpr ⟨hx, hy⟩

theorem uncreated_of_plain {x : List Exchange}
    (h : ∀ e ∈ x, World.Call.Plain (.send e.request)) : Uncreated x :=
  fun e he _ hcreates => h e he hcreates.1

theorem Task.Calls.uncreated {σ α : Type} {t : Task σ α} (h : t.Calls World.Call.Plain) :
    t.Ensures fun x _ => Uncreated x :=
  h.ensures.mono fun _ _ => uncreated_of_plain

namespace BuildResult

/-- The result reports nothing that was created. -/
structure Vacant (r : BuildResult) : Prop where
  success : r.success = false
  flowId : r.flowId = .null
  flowUrl : r.flowUrl = none
  actionsCreated : r.actionsCreated = 0
  templateIds : r.templateIds = []
  settingsApplied : r.settingsApplied = []
  imagesUploaded : r.imagesUploaded = 0

/-- A failure, with what was exchanged while it was made. -/
structure Failed (x : List Exchange) (r : BuildResult) : Prop extends r.Vacant where
  errors : r.errors ≠ []
  uncreated : Uncreated x

/-- A success, with what was exchanged while it was made: it reports on a flow that was created once
in between, and counts the templates that were made for it and those that were written for it
afterwards. -/
structure Succeeded (f : Flow) (x : List Exchange) (r : BuildResult) : Prop where
  success : r.success = true
  errors : r.errors = []
  actionsCreated : r.actionsCreated = f.actions.length
  created : ∃ before creation after document, x = before ++ creation :: after ∧
    creation.Creates document ∧ Uncreated (before ++ after) ∧
    r.flowId = (document.member "data").member "id" ∧
    r.templatesApplied = r.templateIds.length + templatesWritten after

end BuildResult

open BuildResult

namespace Creator

variable (k : Creator)

/-! ## Templates made beforehand -/

theorem EntersAll.counts {letters : List Letter} {done prepared : Precreation}
    (h : EntersAll letters done prepared)
    (hids : (letters.map fun letter => letter.action.id).Nodup)
    (hfresh : ∀ letter ∈ letters, letter.action.id ∉ Members.keys done.templateIds)
    (hdone : done.templateIds.length = done.applied) :
    prepared.templateIds.length = prepared.applied := by
  induction h with
  | nil => exact hdone
  | @cons letter rest done _ _ henters _ ih =>
    obtain ⟨hletter, hids⟩ := List.nodup_cons.mp hids
    obtain ⟨hnew, hfresh⟩ := List.forall_mem_cons.mp hfresh
    rcases henters.templates with ⟨htemplates, happlied⟩ | ⟨id, htemplates, happlied⟩
    · refine ih hids ?_ ?_
      · rwa [htemplates]
      · rw [htemplates, happlied, hdone]
    · rw [Members.set_of_notMem hnew] at htemplates
      refine ih hids (fun other hother => ?_) ?_
      · have hne : other.action.id ≠ letter.action.id :=
          fun hid => hletter (List.mem_map.mpr ⟨other, hother, hid⟩)
        rw [htemplates]
        simpa [hne] using hfresh other hother
      · rw [htemplates, happlied, List.length_append, hdone]
        rfl

theorem counts_precreate (f : Flow) :
    (k.precreate f).Ensures fun _ r => ∀ prepared, r = .ok prepared →
      prepared.templateIds.length = prepared.applied := by
  rw [precreate]
  refine .ofExcept_bind (fun ordered hordered => ?_) ?_
  · dsimp only
    split
    · refine .pure ?_
      rintro _ ⟨rfl⟩
      rfl
    · refine .quiet_bind fun _ => ?_
      refine (ensures_precreateEach k _ _).mono fun _ _ h prepared hr => ?_
      refine (h prepared hr).counts ?_ ?_ rfl
      · exact nodup_map_id_letters (Flow.nodup_map_id_of_traverse hordered)
      · simp [Precreation.none]
  · rintro e - prepared ⟨⟩

/-! ## The creation -/

/-- What the creation comes to with all its attempts. -/
theorem ensures_create_once (creation : Payload.Creation) :
    (k.create creation).Ensures fun x r =>
      (∀ flowId, r = .ok flowId → ∃ before e document, x = before ++ [e] ∧ Uncreated before ∧
        e.Creates document ∧ flowId = (document.member "data").member "id") ∧
      ∀ e, r = .error e → Uncreated x := by
  rw [create]
  refine ((returning_call (k.client.returning_createFlow creation.payload) _ _).and
    (ensures_call (k.client.ensures_createFlow creation.payload) _ _)).bind ?_ ?_
  · rintro _ document ⟨⟨before, e, rfl, hbefore, he⟩, hasked⟩
    have hcreates : e.Creates document := ⟨hasked.forall_mem e (by simp), he⟩
    have hbefore : Uncreated before := by
      rintro b hb document' ⟨-, hreturned⟩
      rw [hbefore b hb] at hreturned
      cases hreturned
    rw [hcreates.createdId_eq]
    refine .ofExcept ⟨?_, by rintro _ ⟨⟩⟩
    rintro _ ⟨rfl⟩
    exact ⟨before, e, document, List.append_nil _, hbefore, hcreates, rfl⟩
  · rintro x failure ⟨hx, -⟩
    refine ⟨by rintro _ ⟨⟩, ?_⟩
    rintro _ - e he document ⟨-, hreturned⟩
    rw [hx e he] at hreturned
    cases hreturned

/-! ## After the creation -/

theorem yields_complete_once {f : Flow} (r : BuildResult) (prepared : Precreation)
    (flowId : Json) :
    (k.complete f r prepared flowId).Yields fun x res => ∃ result, res = .ok result ∧
      Uncreated x ∧ result.success = true ∧ result.errors = r.errors ∧ result.flowId = flowId ∧
      result.actionsCreated = f.actions.length ∧ result.templateIds = prepared.templateIds ∧
      result.templatesApplied = prepared.applied + templatesWritten x := by
  have hpass : ∀ url, (complete.pass k f flowId url prepared.pending).Yields fun x res =>
      ∃ outcome, res = .ok outcome ∧ Uncreated x ∧ templatesWritten x = outcome.1 := by
    refine fun url => ((k.counts_pass f flowId url prepared.pending).and_ensures
      (k.plain_pass f flowId url prepared.pending).uncreated).mono ?_
    rintro x res - ⟨⟨outcome, hres, hwritten⟩, huncreated⟩
    exact ⟨outcome, hres, huncreated, hwritten⟩
  refine (yields_completed hpass fun _ => ⟨by simp [Uncreated], rfl⟩).mono ?_
  rintro x _ - ⟨outcome, images, rfl, huncreated, hwritten⟩
  exact ⟨_, rfl, huncreated, rfl, rfl, rfl, rfl, rfl, by rw [hwritten]; rfl⟩

/-! ## A build -/

theorem failed_refuse {r : BuildResult} {x : List Exchange} (hr : r.Vacant) (hx : Uncreated x)
    (message : String) (e : Failure) : Failed x (refuse r message e) := by
  obtain ⟨hsuccess, hid, hurl, hactions, htemplates, hsettings, himages⟩ := hr
  exact ⟨⟨hsuccess, hid, hurl, hactions, htemplates, hsettings, himages⟩, by simp [refuse], hx⟩

/-- What a build comes to: one of two results. -/
def Consistent (f : Flow) (x : List Exchange) (r : Except Failure BuildResult) : Prop :=
  ∃ result, r = .ok result ∧ (Failed x result ∨ Succeeded f x result)

theorem yields_build_consistent (f : Flow) : (k.build f).Yields (Consistent f) := by
  have hpayload : ∀ p : Precreation,
      (Payload.ofFlow f (some k.names) k.sender p.templateIds : Work _).Ensures fun x r =>
        Uncreated x ∧ ∀ c, r = .ok c → True :=
    fun p => (k.plain_payload f _).uncreated.mono fun _ _ h => ⟨h, fun _ _ => trivial⟩
  refine yields_build_of_stages (E := Uncreated) (by simp [Uncreated]) (fun hx hy => hx.append hy)
    (fun _ _ => (plain_call k.client.plain_ping _ _).uncreated)
    ((k.plain_precreate f).uncreated.and (k.counts_precreate f)) hpayload k.ensures_create_once
    ?_ ?_
  · intro x warnings templates message e hx
    have hvacant : (unfinished f warnings templates).Vacant := ⟨rfl, rfl, rfl, rfl, rfl, rfl, rfl⟩
    exact ⟨_, rfl, .inl (failed_refuse hvacant hx message e)⟩
  · rintro x _ p c _ hx hp - ⟨before, creation, document, rfl, hbefore, hcreates, rfl⟩
    refine (k.yields_complete_once _ p _).mono ?_
    rintro z _ - ⟨result, rfl, hz, hsuccess, herrors, hid, hactions, htemplates, happlied⟩
    refine ⟨result, rfl, .inr ⟨hsuccess, herrors, hactions, ?_⟩⟩
    refine ⟨x ++ before, creation, z, document, by simp, hcreates, ?_, hid, ?_⟩
    · exact (hx.append hbefore).append hz
    · rw [happlied, htemplates, hp]

variable {k} in
/-- No failure that is foreseen is raised by a build, and every result has one of two shapes: it is
a failure if and only if it has errors, and then nothing is reported and no call to create a flow
returned; and a success reports on the only call to create a flow that returned. -/
theorem build_consistent {f : Flow} {m m' : Memory} {t : List (Event World)}
    {r : Except Failure BuildResult}
    (h : Program.Reaches ((k.build f).start m) t (.done (r, m'))) :
    (∀ e, r = .error e → e.foreseen = false) ∧ ∀ result, r = .ok result →
      (result.success = false ↔ result.errors ≠ []) ∧
        (result.success = false → Failed (exchanges t) result) ∧
        (result.success = true → Succeeded f (exchanges t) result) := by
  have hconsistent := (k.yields_build_consistent f).reaches h
  refine ⟨?_, ?_⟩
  · rintro e rfl
    by_contra he
    obtain ⟨result, ⟨⟩, -⟩ := hconsistent (.error (by simpa using he))
  · rintro result rfl
    obtain ⟨_, ⟨rfl⟩, hfailed | hsucceeded⟩ := hconsistent (.ok result)
    · refine ⟨iff_of_true hfailed.success hfailed.errors, fun _ => hfailed, fun hsuccess => ?_⟩
      rw [hfailed.success] at hsuccess
      cases hsuccess
    · have hsuccess := hsucceeded.success
      refine ⟨iff_of_false ?_ ?_, fun hfailure => ?_, fun _ => hsucceeded⟩
      · rw [hsuccess]
        decide
      · exact fun herrors => herrors hsucceeded.errors
      · rw [hsuccess] at hfailure
        cases hfailure

/-- One email gets its template beforehand, and the content pass has nothing to do. -/
theorem fork_consistent :
    ∃ t result m', Program.Reaches ((nearby.build .fork).start .empty) t (.done (.ok result, m')) ∧
      result.success = true ∧ result.templatesApplied = 1 ∧
      Succeeded .fork (exchanges t) result := by
  have hlast : ((Program.record World.smooth 60
      ((nearby.build .fork).start .empty)).2.result?.bind fun x => x.1.toOption.map
        fun r => (r.success, r.templatesApplied)) = some (true, 1) := by
    simp only [build, nearby, precreate_fork, precreateEach, prepare_blank, pure_bind,
      show Flow.fork.second.label = .str "Second" from rfl, Client.createTemplate, Client.send,
      Client.request, Content.toBody_of_ascii Json.noConfusion Json.ascii_blankTemplate]
    simp only [Payload.ofFlow, Flow.traverse_fork, create, Client.createFlow, Client.send,
      Client.request, Content.toBody_document]
    decide +kernel
  obtain ⟨⟨r, m'⟩, hlast, hr⟩ := Option.bind_eq_some_iff.mp hlast
  obtain ⟨result, rfl⟩ : ∃ result, r = .ok result := by
    cases r with
    | error e => cases hr
    | ok result => exact ⟨result, rfl⟩
  obtain ⟨hsuccess, happlied⟩ : result.success = true ∧ result.templatesApplied = 1 := by
    simpa [Except.toOption] using hr
  have hrun := Program.reaches_of_record hlast
  exact ⟨_, result, m', hrun, hsuccess, happlied,
    ((build_consistent hrun).2 result rfl).2.2 hsuccess⟩

end Creator

end MarketingFlow
