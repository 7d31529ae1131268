import Mathlib.Logic.Relation
import MarketingFlow.Proofs.Interaction.Endings
import MarketingFlow.Proofs.Interaction.Mirrors
import MarketingFlow.Proofs.Service.ImageSources
import MarketingFlow.Proofs.Service.ImageUploads

/-!
# Images over any history

A pipeline is asked for single images and for whole contents, in any order and with paths that come
again, and its uploader may answer as it likes. What the pipeline keeps is what the calls of its
uploader say: the addresses of the successful ones, in their order. No path is uploaded again once
it is kept, so no address ever changes.
-/

namespace MarketingFlow

open Outcome

namespace Email.Uploads

variable {σ : Type}

/-! ## What the uploader was asked -/

/-- A call of an uploader and what came of it. -/
structure Call where
  path : String
  outcome : Except Failure Json

/-- What a call hosts: the path with the address in the answer. -/
def Call.hosts? (c : Call) : Option (String × Json) :=
  match c.outcome with
  | .ok answer => if answer.imageUrl.given then some (c.path, answer.imageUrl) else none
  | .error _ => none

theorem Call.hosts?_eq_some_iff {c : Call} {path : String} {url : Json} :
    c.hosts? = some (path, url) ↔
      ∃ answer, c = ⟨path, .ok answer⟩ ∧ answer.imageUrl = url ∧ url.given = true := by
  obtain ⟨path', e | answer⟩ := c
  · simp [hosts?]
  · rw [hosts?]
    dsimp only
    split
    next hgiven => grind
    next hgiven => grind

/-- What some calls have hosted. -/
def hostedBy (calls : List Call) : Hosted :=
  calls.filterMap Call.hosts?

/-- The same uploads, but the uploader keeps a list of its calls. -/
def noting (u : Uploads σ) : Uploads (σ × List Call) where
  uploader path := do
    let r ← ((u.uploader path).within Prod.fst fun s x => (x, s.2)).result
    modify fun s => (s.1, s.2 ++ [⟨path, r⟩])
    Task.ofExcept r
  pacing := u.pacing
  retry := u.retry

/-- The images of a pipeline, the state of its uploader and the calls so far. -/
abbrev State (σ : Type) :=
  Hosted × σ × List Call

variable {u : Uploads σ} {path : String} {s s' : State σ} {t : List (Event World)}
  {r : Except Failure Json}

/-- What comes of asking for an image. One that is kept is given away at once. Of another the
uploader is asked: the first answer is the last call, and the image is kept if the answer has its
address. -/
inductive Uploaded (path : String) (s s' : State σ) : Except Failure Json → Prop
  | kept {url : Json} (h : s.1.find? path = some url) (hs : s' = s) : Uploaded path s s' (.ok url)
  | hosted {failed : List Call} {answer : Json} (hnew : s.1.find? path = none)
      (hfailed : ∀ c ∈ failed, c.path = path ∧ c.hosts? = none)
      (hgiven : answer.imageUrl.given = true)
      (hcalls : s'.2.2 = s.2.2 ++ failed ++ [⟨path, .ok answer⟩])
      (hhosted : s'.1 = s.1 ++ [(path, answer.imageUrl)]) :
      Uploaded path s s' (.ok answer.imageUrl)
  | failed {failed : List Call} {e : Failure} (hnew : s.1.find? path = none)
      (hfailed : ∀ c ∈ failed, c.path = path ∧ c.hosts? = none)
      (hcalls : s'.2.2 = s.2.2 ++ failed) (hhosted : s'.1 = s.1) : Uploaded path s s' (.error e)

theorem leads_noting (u : Uploads σ) (path : String) (calls : List Call) :
    (u.noting.uploader path).Leads (fun s => s.2 = calls)
      fun r s => s.2 = calls ++ [⟨path, r⟩] := by
  have hcall : ((u.uploader path).within Prod.fst fun s x => (x, s.2) :
      Task (σ × List Call) Json).Leads (fun s => s.2 = calls) fun _ s => s.2 = calls :=
    Task.Leads.within (I := fun _ => True) .anything (fun _ _ => trivial) fun _ _ _ hs _ => hs
  refine Task.Leads.result_bind hcall fun r => ?_
  intro s hs t x s' hrun
  replace hrun : (Task.ofExcept r : Task (σ × List Call) Json).Run (s.1, s.2 ++ [⟨path, r⟩]) t x
    s' := hrun
  obtain ⟨-, rfl, rfl⟩ := Task.run_ofExcept hrun
  rw [hs]

/-- The calls of an upload: all of them fail but the one whose answer is given. -/
theorem leads_attempts (u : Uploads σ) (path : String) (hosted : Hosted) (calls : List Call) :
    (u.noting.attempts path).Leads (fun s => s.1 = hosted ∧ s.2.2 = calls) fun r s =>
      s.1 = hosted ∧ ∃ failed, (∀ c ∈ failed, c.path = path ∧ c.hosts? = none) ∧
        s.2.2 = calls ++ failed ++ (r.toOption.map fun answer => ⟨path, .ok answer⟩).toList := by
  let I : State σ → Prop := fun s => s.1 = hosted ∧ ∃ failed,
    (∀ c ∈ failed, c.path = path ∧ c.hosts? = none) ∧ s.2.2 = calls ++ failed
  have honce : ((u.noting.uploader path).within Prod.snd fun s x => (s.1, x) :
      Task (State σ) Json).Leads I fun r s => s.1 = hosted ∧ ∃ failed,
        (∀ c ∈ failed, c.path = path ∧ c.hosts? = none) ∧
          s.2.2 = calls ++ failed ++ [⟨path, r⟩] := by
    rintro s ⟨hhosted, failed, hfailed, hcalls⟩ t r s' hrun
    obtain ⟨x, hcall, rfl⟩ := Task.run_within hrun
    have hnoted := u.leads_noting path s.2.2 s.2 rfl t r x hcall
    exact ⟨hhosted, failed, hfailed, by rw [hnoted, hcalls]⟩
  have hagain : ∀ (e : Failure) (s : State σ), (s.1 = hosted ∧ ∃ failed,
      (∀ c ∈ failed, c.path = path ∧ c.hosts? = none) ∧
        s.2.2 = calls ++ failed ++ [⟨path, .error e⟩]) → I s := by
    rintro e s ⟨hhosted, failed, hfailed, hcalls⟩
    refine ⟨hhosted, failed ++ [⟨path, .error e⟩], ?_, by rw [hcalls, List.append_assoc]⟩
    intro c hc
    rcases List.mem_append.mp hc with hc | hc
    · exact hfailed c hc
    · rw [List.mem_singleton.mp hc]
      exact ⟨rfl, rfl⟩
  have hstart : ∀ s : State σ, s.1 = hosted ∧ s.2.2 = calls → I s :=
    fun s hs => ⟨hs.1, [], by simp, by rw [hs.2, List.append_nil]⟩
  have hstopped : ∀ s : State σ, I s → s.1 = hosted ∧ ∃ failed,
      (∀ c ∈ failed, c.path = path ∧ c.hosts? = none) ∧ s.2.2 = calls ++ failed ++ [] := by
    rintro s ⟨hhosted, failed, hfailed, hcalls⟩
    exact ⟨hhosted, failed, hfailed, by rw [hcalls, List.append_nil]⟩
  exact (Task.Leads.retry honce (fun answer s hs => hs) hagain
    (fun e note s hs => hstopped s (hagain e s hs))
    fun e e' s n hs _ => hstopped s (hagain e s hs)).weaken hstart

theorem run_pause {u : Uploads σ} {s s' : Hosted × σ} {r : Except Failure Unit}
    (h : u.pause.Run s t r s') : r = .ok () ∧ s' = s := by
  rw [pause] at h
  split at h
  · cases h with
    | call answer h =>
      obtain ⟨-, hend⟩ := Program.Reaches.of_done h
      cases hend
      exact ⟨rfl, rfl⟩
  · obtain ⟨-, rfl, rfl⟩ := Task.run_ofExcept h
    exact ⟨rfl, rfl⟩

theorem run_kept {u : Uploads σ} {s s' : Hosted × σ} {answer : Json}
    (h : (u.keep path answer).Run s t r s') :
    (answer.imageUrl.given = true ∧ r = .ok answer.imageUrl ∧
        s' = (Members.set s.1 path answer.imageUrl, s.2)) ∨
      answer.imageUrl.given = false ∧ (∃ e, r = .error e) ∧ s' = s := by
  rcases run_keep_cases h with ⟨hgiven, e, -, rfl, rfl⟩ | ⟨hgiven, h⟩
  · exact Or.inr ⟨hgiven, ⟨e, rfl⟩, rfl⟩
  · obtain ⟨_, v, rfl, hrest⟩ := Task.run_ask_bind h
    rcases Task.run_bind hrest with ⟨v, w, ⟨⟩, s₁, -, hpause, hend⟩ | ⟨e, -, hpause⟩
    · obtain ⟨-, rfl⟩ := run_pause hpause
      obtain ⟨-, rfl, rfl⟩ := Task.run_ofExcept hend
      exact Or.inl ⟨hgiven, rfl, rfl⟩
    · obtain ⟨⟨⟩, -⟩ := run_pause hpause

theorem uploaded_of_run (h : (u.noting.upload path).Run s t r s') : Uploaded path s s' r := by
  rcases run_upload h with ⟨url, hfind, h⟩ | ⟨hfind, h⟩
  · obtain ⟨-, rfl, rfl⟩ := Task.run_ofExcept h
    exact .kept hfind rfl
  · rcases Task.run_bind h with ⟨v, w, answer, s₁, -, hattempts, hkeep⟩ | ⟨e, rfl, hattempts⟩
    · obtain ⟨hhosted, failed, hfailed, hcalls⟩ :=
        u.leads_attempts path s.1 s.2.2 s ⟨rfl, rfl⟩ v _ s₁ hattempts
      rcases run_kept hkeep with ⟨hgiven, rfl, rfl⟩ | ⟨hgiven, ⟨e, rfl⟩, rfl⟩
      · refine .hosted hfind hfailed hgiven hcalls ?_
        rw [hhosted]
        exact Members.set_of_notMem (Members.find?_eq_none_iff.mp hfind) _
      · have hall : ∀ c ∈ failed ++ [⟨path, .ok answer⟩], c.path = path ∧ c.hosts? = none := by
          intro c hc
          rcases List.mem_append.mp hc with hc | hc
          · exact hfailed c hc
          · rw [List.mem_singleton.mp hc]
            exact ⟨rfl, by simp [Call.hosts?, hgiven]⟩
        exact .failed hfind hall (by rw [hcalls, List.append_assoc]; rfl) hhosted
    · obtain ⟨hhosted, failed, hfailed, hcalls⟩ :=
        u.leads_attempts path s.1 s.2.2 s ⟨rfl, rfl⟩ t _ s' hattempts
      exact .failed hfind hfailed (hcalls.trans (List.append_nil _)) hhosted

/-! ## What a call leaves -/

theorem Uploaded.grows (h : Uploaded path s s' r) : s.1 <+: s'.1 ∧ s.2.2 <+: s'.2.2 := by
  cases h with
  | kept _ hs => exact hs ▸ ⟨List.prefix_rfl, List.prefix_rfl⟩
  | hosted _ _ _ hcalls hhosted =>
    rw [hcalls, hhosted, List.append_assoc]
    exact ⟨List.prefix_append _ _, List.prefix_append _ _⟩
  | failed _ _ hcalls hhosted =>
    rw [hcalls, hhosted]
    exact ⟨List.prefix_rfl, List.prefix_append _ _⟩

theorem Uploaded.find?_of_ne (h : Uploaded path s s' r) {other : String} (hother : other ≠ path) :
    s'.1.find? other = s.1.find? other := by
  cases h with
  | kept _ hs => rw [hs]
  | hosted _ _ _ _ hhosted =>
    rw [hhosted, Members.find?_append]
    simp [Members.find?, List.lookup_cons, beq_false_of_ne hother]
  | failed _ _ _ hhosted => rw [hhosted]

/-- The image is kept if and only if its address is given. -/
theorem Uploaded.find?_self (h : Uploaded path s s' r) : s'.1.find? path = r.toOption := by
  cases h with
  | kept h hs => rw [hs, h]; rfl
  | hosted hnew _ _ _ hhosted =>
    rw [hhosted, Members.find?_append, hnew]
    simp [Members.find?, Except.toOption]
  | failed hnew _ _ hhosted => rw [hhosted, hnew]; rfl

theorem find?_of_grown {hosted hosted' : Hosted} (h : hosted <+: hosted') {url : Json}
    (hfind : hosted.find? path = some url) : hosted'.find? path = some url := by
  obtain ⟨more, rfl⟩ := h
  rw [Members.find?_append, hfind]
  rfl

/-- Whenever the uploader was asked for a path, no address of it was there yet. -/
def AskedWhileMissing (calls : List Call) : Prop :=
  ∀ before c after, calls = before ++ c :: after → (hostedBy before).find? c.path = none

theorem askedWhileMissing_concat_iff {calls : List Call} {c : Call} :
    AskedWhileMissing (calls ++ [c]) ↔
      AskedWhileMissing calls ∧ (hostedBy calls).find? c.path = none := by
  constructor
  · intro h
    constructor
    · intro before d after hcalls
      exact h before d (after ++ [c]) (by simp [hcalls])
    · exact h calls c [] rfl
  · rintro ⟨hcalls, hlast⟩ before d after hsplit
    rcases List.eq_nil_or_concat after with rfl | ⟨after, e, rfl⟩
    · obtain ⟨rfl, hd⟩ := List.append_inj' hsplit rfl
      cases hd
      exact hlast
    · rw [List.concat_eq_append, ← List.cons_append, ← List.append_assoc] at hsplit
      obtain ⟨rfl, -⟩ := List.append_inj' hsplit rfl
      exact hcalls before d after rfl

theorem hostedBy_append_failed {calls failed : List Call}
    (hfailed : ∀ c ∈ failed, c.path = path ∧ c.hosts? = none) :
    hostedBy (calls ++ failed) = hostedBy calls := by
  rw [hostedBy, List.filterMap_append,
    List.filterMap_eq_nil_iff.mpr fun c hc => (hfailed c hc).2, List.append_nil]
  rfl

theorem AskedWhileMissing.append_failed {calls failed : List Call} (h : AskedWhileMissing calls)
    (hnew : (hostedBy calls).find? path = none)
    (hfailed : ∀ c ∈ failed, c.path = path ∧ c.hosts? = none) :
    AskedWhileMissing (calls ++ failed) := by
  induction failed using List.reverseRecOn with
  | nil => rwa [List.append_nil]
  | append_singleton failed c ih =>
    have hbefore : ∀ d ∈ failed, d.path = path ∧ d.hosts? = none :=
      fun d hd => hfailed d (List.mem_append_left _ hd)
    rw [← List.append_assoc, askedWhileMissing_concat_iff]
    refine ⟨ih hbefore, ?_⟩
    rw [hostedBy_append_failed hbefore, (hfailed c (by simp)).1]
    exact hnew

/-- The images that are kept are those that the calls have hosted, and no call came after the one
that hosted its path. -/
structure Sound (s : State σ) : Prop where
  hosted : s.1 = hostedBy s.2.2
  asked : AskedWhileMissing s.2.2

theorem Sound.uploaded (hs : Sound s) (h : Uploaded path s s' r) : Sound s' := by
  cases h with
  | kept _ hsame => rwa [hsame]
  | @hosted failed answer hnew hfailed hgiven hcalls hhosted =>
    rw [hs.hosted] at hnew
    have hlast : List.filterMap Call.hosts? [⟨path, .ok answer⟩] = [(path, answer.imageUrl)] := by
      simp [Call.hosts?, hgiven]
    constructor
    · rw [hhosted, hcalls, hostedBy, List.filterMap_append, hlast, hs.hosted]
      exact congrArg (· ++ _) (hostedBy_append_failed hfailed).symm
    · rw [hcalls, askedWhileMissing_concat_iff, hostedBy_append_failed hfailed]
      exact ⟨hs.asked.append_failed hnew hfailed, hnew⟩
  | failed hnew hfailed hcalls hhosted =>
    rw [hs.hosted] at hnew
    constructor
    · rw [hhosted, hcalls, hostedBy_append_failed hfailed, hs.hosted]
    · rw [hcalls]
      exact hs.asked.append_failed hnew hfailed

/-- The address of a path is that of its one successful call, which is its last. -/
theorem Sound.find?_eq_some_iff (hs : Sound s) {url : Json} :
    s.1.find? path = some url ↔ ∃ before answer after,
      s.2.2 = before ++ ⟨path, .ok answer⟩ :: after ∧ answer.imageUrl = url ∧ url.given = true ∧
        ∀ c ∈ after, c.path ≠ path := by
  rw [hs.hosted]
  constructor
  · intro hfind
    obtain ⟨c, hc, hhosts⟩ := List.mem_filterMap.mp (Members.mem_of_find? hfind)
    obtain ⟨answer, rfl, rfl, hgiven⟩ := Call.hosts?_eq_some_iff.mp hhosts
    obtain ⟨before, after, hcalls⟩ := List.append_of_mem hc
    refine ⟨before, answer, after, hcalls, rfl, hgiven, fun d hd hpath => ?_⟩
    -- A later call for the path would have found its address.
    obtain ⟨between, rest, rfl⟩ := List.append_of_mem hd
    have hmissing := hs.asked (before ++ ⟨path, .ok answer⟩ :: between) d rest (by simp [hcalls])
    rw [hpath, Members.find?_eq_none_iff] at hmissing
    apply hmissing
    apply List.mem_map_of_mem (a := (path, answer.imageUrl))
    exact List.mem_filterMap.mpr ⟨⟨path, .ok answer⟩, by simp, hhosts⟩
  · rintro ⟨before, answer, after, hcalls, rfl, hgiven, -⟩
    have hmissing := hs.asked before _ after hcalls
    have hhosts : Call.hosts? ⟨path, .ok answer⟩ = some (path, answer.imageUrl) :=
      Call.hosts?_eq_some_iff.mpr ⟨answer, rfl, rfl, hgiven⟩
    rw [hcalls, hostedBy, List.filterMap_append, List.filterMap_cons, hhosts,
      Members.find?_append]
    rw [hostedBy] at hmissing
    rw [hmissing]
    simp [Members.find?]

/-! ## Contents -/

/-- One image after the other was asked for. -/
abbrev Later (s s' : State σ) : Prop :=
  Relation.ReflTransGen (fun s s' => ∃ path r, Uploaded path s s' r) s s'

theorem Later.sound (h : Later s s') (hs : Sound s) : Sound s' := by
  induction h with
  | refl => exact hs
  | tail _ hstep ih =>
    obtain ⟨path, r, hstep⟩ := hstep
    exact ih.uploaded hstep

theorem Later.grows (h : Later s s') : s.1 <+: s'.1 ∧ s.2.2 <+: s'.2.2 := by
  induction h with
  | refl => exact ⟨List.prefix_rfl, List.prefix_rfl⟩
  | tail _ hstep ih =>
    obtain ⟨path, r, hstep⟩ := hstep
    exact ⟨ih.1.trans hstep.grows.1, ih.2.trans hstep.grows.2⟩

/-- The warning of an upload that failed. -/
def Warns (path text : String) : Prop :=
  ∃ f : Failure, text = "Image upload failed for \"" ++ path ++ "\": " ++ f.message

theorem run_uploadAll {paths : List String} (hnodup : paths.Nodup)
    {r : Except Failure (List String)} (h : (u.noting.uploadAll paths).Run s t r s') :
    Later s s' ∧ (∀ path ∉ paths, s'.1.find? path = s.1.find? path) ∧
      ∃ warnings, r = .ok warnings ∧
        List.Forall₂ Warns (paths.filter fun path => (s'.1.find? path).isNone) warnings := by
  -- On the paths that are left: what becomes of the first is not touched by the others.
  induction paths generalizing s t r with
  | nil =>
    obtain ⟨-, rfl, rfl⟩ := Task.run_ofExcept h
    exact ⟨.refl, fun _ _ => rfl, [], rfl, .nil⟩
  | cons path rest ih =>
    obtain ⟨hnew, hrest⟩ := List.nodup_cons.mp hnodup
    rw [uploadAll] at h
    obtain ⟨v, w, x, s₁, -, hupload, hlater⟩ := Task.run_result_bind h
    have huploaded := uploaded_of_run hupload
    have hself : ∀ s' : State σ, (∀ path ∉ rest, s'.1.find? path = s₁.1.find? path) →
        s'.1.find? path = x.toOption := fun s' hs' => (hs' path hnew).trans huploaded.find?_self
    have hothers : ∀ s' : State σ, (∀ path ∉ rest, s'.1.find? path = s₁.1.find? path) →
        ∀ other ∉ path :: rest, s'.1.find? other = s.1.find? other := by
      intro s' hs' other hother
      obtain ⟨hne, hother⟩ := not_or.mp (List.mem_cons.not.mp hother)
      exact (hs' other hother).trans (huploaded.find?_of_ne hne)
    cases x with
    | ok url =>
      obtain ⟨hsteps, hkept, warnings, rfl, hwarnings⟩ := ih hrest hlater
      refine ⟨.head ⟨path, _, huploaded⟩ hsteps, hothers s' hkept, warnings, rfl, ?_⟩
      rwa [List.filter_cons_of_neg (by rw [hself s' hkept]; simp [Except.toOption])]
    | error f =>
      obtain ⟨_, v, -, hmore⟩ := Task.run_ask_bind hlater
      obtain ⟨x, hall, rfl⟩ := Task.run_map hmore
      obtain ⟨hsteps, hkept, warnings, rfl, hwarnings⟩ := ih hrest hall
      refine ⟨.head ⟨path, _, huploaded⟩ hsteps, hothers s' hkept, _, rfl, ?_⟩
      rw [List.filter_cons_of_pos (by rw [hself s' hkept]; rfl)]
      exact .cons ⟨f, rfl⟩ hwarnings

theorem run_prepare {content : Json} {r : Except Failure (String × List String)}
    (h : (u.noting.prepare content).Run s t r s') :
    Later s s' ∧ ∀ paths, localImages content = .ok paths → ∃ warnings,
      List.Forall₂ Warns (paths.filter fun path => (s'.1.find? path).isNone) warnings ∧
        r = (hostedPage s'.1 content).map fun html => (html, warnings) := by
  rw [prepare] at h
  cases hpaths : localImages content with
  | error e =>
    rw [hpaths] at h
    obtain ⟨-, -, rfl⟩ := Task.run_ofExcept (x := .error e) h
    exact ⟨.refl, by rintro paths ⟨⟩⟩
  | ok paths =>
    rw [hpaths] at h
    replace h : (u.noting.uploadAll paths >>= fun warnings => do
        return (← Task.ofExcept (hostedPage (← get).1 content), warnings)).Run s t r s' := h
    rcases Task.run_bind h with ⟨v, w, warnings, s₁, -, hall, hpage⟩ | ⟨e, rfl, hall⟩
    · obtain ⟨hsteps, -, _, ⟨rfl⟩, hwarnings⟩ := run_uploadAll (nodup_localImages hpaths) hall
      obtain ⟨x, hrendered, rfl⟩ := Task.run_map (Task.run_get_bind hpage)
      obtain ⟨-, rfl, rfl⟩ := Task.run_ofExcept hrendered
      refine ⟨hsteps, fun _ hp => ?_⟩
      cases hp
      exact ⟨warnings, hwarnings, rfl⟩
    · obtain ⟨-, -, _, ⟨⟩, -⟩ := run_uploadAll (nodup_localImages hpaths) hall

/-! ## The calls change nothing -/

/-- The state without the calls. -/
def State.forget (s : State σ) : Hosted × σ :=
  (s.1, s.2.1)

theorem mirrors_noting (u : Uploads σ) (path : String) :
    (u.noting.uploader path).Mirrors Prod.fst (u.uploader path) := by
  intro s
  have hstart : (u.noting.uploader path).start s = ((u.uploader path).start s.1).bind fun x =>
      .done (x.1, x.2, s.2 ++ [⟨path, x.1⟩]) := by
    change (((u.uploader path).within Prod.fst fun s x => (x, s.2)).result >>= fun r => _ :
      Task (σ × List Call) Json).start s = _
    rw [Task.start_bind, Task.start_result, Task.start_within, Program.bind_assoc,
      Program.bind_assoc]
    rfl
  rw [hstart, Program.bind_assoc]
  exact Program.bind_done _

theorem mirrors_pause (u : Uploads σ) : u.noting.pause.Mirrors State.forget u.pause := by
  rw [pause, pause]
  change Task.Mirrors _ (if u.pacing.toJson.given then _ else _) _
  split
  · exact .ask _
  · exact .ofExcept _

theorem mirrors_keep (u : Uploads σ) (path : String) (answer : Json) :
    (u.noting.keep path answer).Mirrors State.forget (u.keep path answer) := by
  apply (Task.Mirrors.ofExcept _).bind
  intro url
  dsimp only
  split
  · exact .ofExcept _
  · intro s
    exact (Task.Mirrors.ask _).bind (fun _ => u.mirrors_pause.bind fun _ => .ofExcept _)
      (Members.set s.1 path url, s.2)

theorem mirrors_attempts (u : Uploads σ) (path : String) :
    (u.noting.attempts path).Mirrors State.forget (u.attempts path) := by
  apply Task.Mirrors.retry
  intro s
  rw [Task.start_within, Task.start_within, Program.bind_assoc]
  change _ = ((u.uploader path).start s.2.1).bind _
  rw [← u.mirrors_noting path s.2, Program.bind_assoc]
  rfl

theorem start_upload {σ : Type} (u : Uploads σ) (path : String) (s : Hosted × σ) :
    (u.upload path).start s = (match s.1.find? path with
      | some url => pure url
      | none => u.attempts path >>= u.keep path : Task (Hosted × σ) Json).start s := by
  rw [upload]
  change (match s.1.find? path with
    | some url => _
    | none => _ : Task (Hosted × σ) Json).start s = _
  cases s.1.find? path <;> rfl

theorem mirrors_upload (u : Uploads σ) (path : String) :
    (u.noting.upload path).Mirrors State.forget (u.upload path) := by
  intro s
  rw [start_upload, start_upload]
  change _ = (match s.1.find? path with
    | some url => _
    | none => _ : Task (Hosted × σ) Json).start _
  cases s.1.find? path with
  | some url => rfl
  | none => exact (u.mirrors_attempts path).bind (fun answer => u.mirrors_keep path answer) s

theorem mirrors_uploadAll (u : Uploads σ) (paths : List String) :
    (u.noting.uploadAll paths).Mirrors State.forget (u.uploadAll paths) := by
  induction paths with
  | nil => exact .ofExcept _
  | cons path rest ih =>
    apply (u.mirrors_upload path).result.bind
    rintro (f | url)
    · exact (Task.Mirrors.ask _).bind fun _ => ih.bind fun _ => .ofExcept _
    · exact ih

theorem mirrors_prepare (u : Uploads σ) (content : Json) :
    (u.noting.prepare content).Mirrors State.forget (u.prepare content) := by
  rw [prepare, prepare]
  apply (Task.Mirrors.ofExcept _).bind
  intro paths
  apply (u.mirrors_uploadAll paths).bind
  intro warnings
  apply Task.Mirrors.get_bind
  intro s
  exact (Task.Mirrors.ofExcept _).bind fun _ => .ofExcept _

/-! ## Calls come to an end -/

section

variable {u : Uploads σ} (h : ∀ path, (u.uploader path).Ends)

include h

theorem ends_upload (path : String) : (u.upload path).Ends := by
  have hattempts : (u.attempts path).Ends :=
    Task.Ends.retry fun s => (h path s.2).bind fun _ => .done _
  have hpause : u.pause.Ends := by
    rw [pause]
    split
    · exact .ask _
    · exact .pure ()
  intro s
  rw [start_upload]
  cases s.1.find? path with
  | some url => exact .done _
  | none =>
    apply hattempts.bind
    intro answer
    apply (Task.Ends.ofExcept _).bind
    intro url
    dsimp only
    split
    · exact .throw _
    · intro s
      exact (Task.Ends.log _ _).bind (fun _ => hpause.bind fun _ => .pure url)
        (Members.set s.1 path url, s.2)

theorem ends_uploadAll (paths : List String) : (u.uploadAll paths).Ends := by
  induction paths with
  | nil => exact .pure _
  | cons path rest ih =>
    apply (ends_upload h path).result.bind
    rintro (f | url)
    · exact (Task.Ends.log _ _).bind fun _ => ih.bind fun _ => .pure _
    · exact ih

theorem ends_prepare (content : Json) : (u.prepare content).Ends := by
  rw [prepare]
  apply (Task.Ends.ofExcept _).bind
  intro paths
  apply (ends_uploadAll h paths).bind
  intro warnings
  apply Task.Ends.get_bind
  intro s
  exact (Task.Ends.ofExcept _).bind fun _ => .pure _

end

/-! ## Any history -/

/-- A call of a pipeline, for one image or for a content, that comes to an end. -/
inductive Serves (u : Uploads σ) (s s' : State σ) : Prop
  | upload {path : String} {t : List (Event World)} {r : Except Failure Json}
      (h : (u.noting.upload path).Run s t r s')
  | prepare {content : Json} {t : List (Event World)} {r : Except Failure (String × List String)}
      (h : (u.noting.prepare content).Run s t r s')

theorem Serves.later (h : Serves u s s') : Later s s' := by
  cases h with
  | upload h => exact .single ⟨_, _, uploaded_of_run h⟩
  | prepare h => exact (run_prepare h).1

theorem later_of_history (h : Relation.ReflTransGen (Serves u) s s') : Later s s' := by
  induction h with
  | refl => exact .refl
  | tail _ hlast ih => exact ih.trans hlast.later

theorem sound_start (x : σ) : Sound (([], x, []) : State σ) where
  hosted := rfl
  asked := by
    intro before c after h
    simp at h

/-- A pipeline after any calls. The uploader was asked for a path only while no address of it was
there, an address is that of the last call for its path, and whatever is asked next leaves all
addresses as they are. A single image is given away or uploaded. A content comes out with a warning
for each of its local images that is not hosted by then, and with the addresses of all that are. -/
theorem images_hosted_once (u : Uploads σ) (x : σ) {s : State σ}
    (h : Relation.ReflTransGen (Serves u) ([], x, []) s) :
    s.1 = hostedBy s.2.2 ∧
    (∀ before c after, s.2.2 = before ++ c :: after → (hostedBy before).find? c.path = none) ∧
    (∀ path url, s.1.find? path = some url ↔ ∃ before answer after,
      s.2.2 = before ++ ⟨path, .ok answer⟩ :: after ∧ answer.imageUrl = url ∧ url.given = true ∧
        ∀ c ∈ after, c.path ≠ path) ∧
    (∀ s', Relation.ReflTransGen (Serves u) s s' → s.1 <+: s'.1 ∧
      ∀ path url, s.1.find? path = some url → s'.1.find? path = some url) ∧
    (∀ path t r y, (u.upload path).Run s.forget t r y →
      ∃ s', Serves u s s' ∧ s'.forget = y ∧ Uploaded path s s' r) ∧
    (∀ content sections, Illustrates content sections → ∀ t r y,
      (u.prepare content).Run s.forget t r y → ∃ s', Serves u s s' ∧ s'.forget = y ∧
        ∃ warnings, List.Forall₂ Warns
          ((localSources sections).filter fun path => (y.1.find? path).isNone) warnings ∧
        r = (page (hostImages y.1 content sections)).map fun html => (html, warnings)) ∧
    ((∀ path, (u.uploader path).Ends) →
      (∀ path, (u.upload path).Ends) ∧ ∀ content, (u.prepare content).Ends) := by
  have hsound : Sound s := (later_of_history h).sound (sound_start x)
  refine ⟨hsound.hosted, hsound.asked, fun _ _ => hsound.find?_eq_some_iff, ?_, ?_, ?_,
    fun hends => ⟨ends_upload hends, ends_prepare hends⟩⟩
  · intro s' h'
    have hgrows := (later_of_history h').grows.1
    exact ⟨hgrows, fun path url hfind => find?_of_grown hgrows hfind⟩
  · intro path t r y hrun
    obtain ⟨s', hrun, hy⟩ := (u.mirrors_upload path).run_iff.mp hrun
    exact ⟨s', .upload hrun, hy, uploaded_of_run hrun⟩
  · intro content sections hsections t r y hrun
    obtain ⟨s', hnoted, rfl⟩ := (u.mirrors_prepare content).run_iff.mp hrun
    obtain ⟨-, hprepared⟩ := run_prepare hnoted
    obtain ⟨warnings, hwarnings, hr⟩ := hprepared _ (localImages_eq hsections)
    refine ⟨s', .prepare hnoted, rfl, warnings, hwarnings, ?_⟩
    rw [hr, hostedPage, hostContent_eq hsections, ok_bind]
    rfl

/-- An answer to an upload. -/
def oneAddress : Json :=
  .obj [("data", .obj [("attributes", .obj [("image_url", .str "https://a.b/1")])])]

/-- An uploader whose first answer has no address. -/
def lateAddress : Uploads Bool where
  uploader _ := do
    let asked ← get
    set true
    return if asked then oneAddress else .obj []
  pacing := .int 0
  retry := { RetryOptions.standard with maxAttempts := 1 }

theorem start_lateAddress (path : String) (s : State Bool) (hnew : s.1.find? path = none) :
    (lateAddress.noting.upload path).start s =
      let answer := if s.2.1 then oneAddress else .obj []
      (lateAddress.noting.keep path answer).start (s.1, true, s.2.2 ++ [⟨path, .ok answer⟩]) := by
  have hone : lateAddress.noting.retry.attempts - 1 = 0 := rfl
  rw [start_upload, hnew]
  dsimp only
  rw [Task.start_bind, attempts, Task.retry, MarketingFlow.retry, hone, attemptFrom]
  rfl

theorem lateAddress_hosted_once : ∃ s : State Bool,
    Relation.ReflTransGen (Serves lateAddress) ([], false, []) s ∧
      s.2.2.map Call.path = ["/a", "/a"] ∧
      ∀ s', Relation.ReflTransGen (Serves lateAddress) s s' →
        s'.1.find? "/a" = some (.str "https://a.b/1") := by
  let missed : State Bool := ([], true, [⟨"/a", .ok (.obj [])⟩])
  let found : State Bool :=
    ([("/a", .str "https://a.b/1")], true, missed.2.2 ++ [⟨"/a", .ok oneAddress⟩])
  have hmissed : ((Program.record World.smooth 4
      ((lateAddress.noting.upload "/a").start ([], false, []))).2.result?).map Prod.snd =
        some missed := by
    rw [start_lateAddress _ _ rfl]
    rfl
  have hfound : ((Program.record World.smooth 4
      ((lateAddress.noting.upload "/a").start missed)).2.result?).map Prod.snd = some found := by
    rw [start_lateAddress _ _ rfl]
    rfl
  obtain ⟨⟨r, _⟩, hmissed, rfl⟩ := Option.map_eq_some_iff.mp hmissed
  obtain ⟨⟨r', _⟩, hfound, rfl⟩ := Option.map_eq_some_iff.mp hfound
  have h : Relation.ReflTransGen (Serves lateAddress) ([], false, []) found :=
    .tail (.single (.upload (Program.reaches_of_record hmissed)))
      (.upload (Program.reaches_of_record hfound))
  obtain ⟨-, -, -, hkept, -⟩ := images_hosted_once lateAddress false h
  exact ⟨found, h, rfl, fun s' h' => (hkept s' h').2 _ _ rfl⟩

end Email.Uploads

end MarketingFlow
