import MarketingFlow.Proofs.Service.Answers
import MarketingFlow.Proofs.Service.Documents
import MarketingFlow.Proofs.Service.Stages

/-!
# The search for a template

The template of a message is looked for at one revision after the other, each of them once. A
document with an id ends the search, and so does a refusal of the key; all other replies are passed
over. There is no template only where all revisions were tried and passed over.
-/

namespace MarketingFlow

open Outcome

/-- The status says that the key is refused. -/
def Reply.deniesKey : Reply → Bool
  | answer status _ => status == 401 || status == 403
  | _ => false

theorem RemoteKind.ofStatus_eq_auth_iff {status : Int} :
    ofStatus status = auth ↔ status = 401 ∨ status = 403 := by
  rw [ofStatus]
  grind

/-- What a reply says about the template of a message. -/
inductive Finding where
  | found (document : Json)
  | denied (f : Failure)
  | nothing

namespace Client

variable {σ : Type} {c : Client} {target : String} {reply : Reply} {f : Failure}

theorem StandsFor.remoteKind?_eq_auth_iff (h : StandsFor target reply f) :
    f.remoteKind? = some .auth ↔ reply.deniesKey = true := by
  cases h with
  | refusal _ _ =>
    simp only [Reply.deniesKey, Bool.or_eq_true, beq_iff_eq]
    rw [← RemoteKind.ofStatus_eq_auth_iff]
    exact Option.some_inj
  | timeout message => simp [networkFailure, Failure.remoteKind?, Reply.deniesKey]
  | broken message => simp [networkFailure, Failure.remoteKind?, Reply.deniesKey]

/-- The findings that replies stand for: a document with an id, one without, a refusal of the key,
and any other failure. -/
inductive Tells (target : String) : Reply → Finding → Prop where
  | found {reply : Reply} {v : Json} (h : Delivers reply v) (hrecord : v.holdsRecord = true)
      (hid : ((v.member "data").member "id").given = true) : Tells target reply (.found v)
  | unnamed {reply : Reply} {v : Json} (h : Delivers reply v) (hrecord : v.holdsRecord = true)
      (hid : ((v.member "data").member "id").given = false) : Tells target reply .nothing
  | denied {reply : Reply} {f : Failure} (h : StandsFor target reply f)
      (hdenies : reply.deniesKey = true) : Tells target reply (.denied f)
  | failed {reply : Reply} {f : Failure} (h : StandsFor target reply f)
      (hdenies : reply.deniesKey = false) : Tells target reply .nothing

/-! ## The revisions -/

theorem eraseDups_of_nodup {xs : List String} (h : xs.Nodup) : xs.eraseDups = xs := by
  induction xs with
  | nil => rfl
  | cons x xs ih =>
    obtain ⟨hx, hxs⟩ := List.nodup_cons.mp h
    have hrest : (xs.filter fun y => !y == x) = xs :=
      List.filter_eq_self.mpr fun y hy => by simp [ne_of_mem_of_not_mem hy hx]
    rw [List.eraseDups_cons, hrest, ih hxs]

theorem templateRevisions_eq (c : Client) : c.templateRevisions =
    c.revision :: [stableRevision, "2025-01-15", "2024-10-15.pre"].filter (· ≠ c.revision) := by
  rw [templateRevisions, List.eraseDups_cons, eraseDups_of_nodup]
  · congr 2
    funext name
    rw [decide_not]
    rfl
  · exact List.Nodup.filter _ (by decide)

theorem nodup_templateRevisions (c : Client) : c.templateRevisions.Nodup := by
  rw [templateRevisions_eq, List.nodup_cons]
  exact ⟨by simp, List.Nodup.filter _ (by decide)⟩

/-- Every revision of the search is sent as it is. -/
theorem sent_of_mem_templateRevisions {revision : String} (h : revision ∈ c.templateRevisions) :
    revision ≠ "" ∨ revision = c.revision := by
  rw [templateRevisions_eq, List.mem_cons] at h
  rcases h with rfl | h
  · exact .inr rfl
  · left
    rintro rfl
    exact absurd (List.mem_filter.mp h).1 (by decide)

/-! ## The search -/

/-- The end of a search through `revisions`: those that were tried are the first ones, all before
the last of them told nothing, and the last one decided, or nothing was left to try. -/
structure Ended (finding : String → Finding) (revisions tried : List String)
    (r : Except Failure Json) : Prop where
  first : tried <+: revisions
  outcome :
    (∃ before revision v, tried = before ++ [revision] ∧ (∀ b ∈ before, finding b = .nothing) ∧
      finding revision = .found v ∧ r = .ok v) ∨
    (∃ before revision f, tried = before ++ [revision] ∧ (∀ b ∈ before, finding b = .nothing) ∧
      finding revision = .denied f ∧ r = .error f) ∨
    (tried = revisions ∧ (∀ b ∈ revisions, finding b = .nothing) ∧ r = .ok .null)

variable {finding : String → Finding} {revision : String} {revisions tried : List String}
  {r : Except Failure Json}

theorem ended_nil : Ended finding [] [] (.ok .null) :=
  ⟨List.prefix_rfl, .inr (.inr ⟨rfl, by simp, rfl⟩)⟩

theorem ended_found {v : Json} (h : finding revision = .found v) :
    Ended finding (revision :: revisions) [revision] (.ok v) :=
  ⟨List.prefix_append [revision] revisions, .inl ⟨[], revision, v, rfl, by simp, h, rfl⟩⟩

theorem ended_denied {f : Failure} (h : finding revision = .denied f) :
    Ended finding (revision :: revisions) [revision] (.error f) :=
  ⟨List.prefix_append [revision] revisions,
    .inr (.inl ⟨[], revision, f, rfl, by simp, h, rfl⟩)⟩

theorem Ended.cons (h : Ended finding revisions tried r) (hrevision : finding revision = .nothing) :
    Ended finding (revision :: revisions) (revision :: tried) r := by
  refine ⟨List.cons_prefix_cons.mpr ⟨rfl, h.first⟩, ?_⟩
  rcases h.outcome with ⟨before, last, v, rfl, hbefore, hlast, rfl⟩ |
    ⟨before, last, f, rfl, hbefore, hlast, rfl⟩ | ⟨rfl, hall, rfl⟩
  · exact .inl ⟨revision :: before, last, v, rfl, List.forall_mem_cons.mpr ⟨hrevision, hbefore⟩,
      hlast, rfl⟩
  · exact .inr (.inl ⟨revision :: before, last, f, rfl,
      List.forall_mem_cons.mpr ⟨hrevision, hbefore⟩, hlast, rfl⟩)
  · exact .inr (.inr ⟨rfl, List.forall_mem_cons.mpr ⟨hrevision, hall⟩, rfl⟩)

/-! ### One revision -/

/-- Where the template of a message is. -/
def templatePath (id : Json) : String :=
  "/flow-messages/" ++ id.text ++ "/template/"

section

variable {id v : Json} {x y : List Exchange}

theorem may_templateAt_found
    (hget : (c.get (templatePath id) (some revision) : Task σ Json).May x (.ok v))
    (hrecord : v.holdsRecord = true) (hid : ((v.member "data").member "id").given = true) :
    (c.templateAt id (revision :: revisions) : Task σ Json).May x (.ok v) := by
  obtain ⟨hobject, hdata⟩ := Bool.and_eq_true_iff.mp hrecord
  rw [templateAt, ← List.append_nil x]
  refine .result_bind hget ?_
  dsimp only
  rw [Json.get_get_eq_ok_iff.mpr ⟨hobject, hdata, rfl⟩]
  refine .bind (x := []) (.ofExcept _) ?_
  rw [if_pos hid]
  exact .log_bind (.pure v)

theorem may_templateAt_unnamed
    (hget : (c.get (templatePath id) (some revision) : Task σ Json).May x (.ok v))
    (hrecord : v.holdsRecord = true) (hid : ((v.member "data").member "id").given = false)
    (hrest : (c.templateAt id revisions : Task σ Json).May y r) :
    (c.templateAt id (revision :: revisions) : Task σ Json).May (x ++ y) r := by
  obtain ⟨hobject, hdata⟩ := Bool.and_eq_true_iff.mp hrecord
  rw [templateAt]
  refine .result_bind hget ?_
  dsimp only
  rw [Json.get_get_eq_ok_iff.mpr ⟨hobject, hdata, rfl⟩]
  refine .bind (x := []) (.ofExcept _) ?_
  rw [hid]
  exact hrest

theorem may_templateAt_denied
    (hget : (c.get (templatePath id) (some revision) : Task σ Json).May x (.error f))
    (hf : f.remoteKind? = some .auth) :
    (c.templateAt id (revision :: revisions) : Task σ Json).May x (.error f) := by
  rw [templateAt, ← List.append_nil x]
  refine .result_bind hget ?_
  dsimp only
  rw [hf]
  exact .throw f

theorem may_templateAt_failed {kind : RemoteKind}
    (hget : (c.get (templatePath id) (some revision) : Task σ Json).May x (.error f))
    (hf : f.remoteKind? = some kind) (hkind : kind ≠ .auth)
    (hrest : (c.templateAt id revisions : Task σ Json).May y r) :
    (c.templateAt id (revision :: revisions) : Task σ Json).May (x ++ y) r := by
  rw [templateAt]
  refine .result_bind hget ?_
  dsimp only
  rw [hf]
  cases kind with
  | auth => exact absurd rfl hkind
  | _ => exact .log_bind hrest

end

/-! ### All revisions -/

section

variable {id : Json} {request : Request} {serve : String → Reply}

/-- What is exchanged at a revision. -/
def askedAt (request : Request) (serve : String → Reply) (revision : String) : Exchange :=
  ⟨{ request with revision := revision }, serve revision⟩

/-- The search through revisions at which the service replies as `serve` says. -/
theorem may_templateAt
    (hr : c.request "GET" (templatePath id) none none .empty = .ok request)
    (hkind : request.url.checkKind = .ok ())
    (hsent : ∀ b ∈ revisions, b ≠ "" ∨ b = c.revision)
    (htells : ∀ b ∈ revisions, Tells ("GET " ++ templatePath id) (serve b) (finding b)) :
    ∃ tried r, Ended finding revisions tried r ∧
      (c.templateAt id revisions : Task σ Json).May (tried.map (askedAt request serve)) r := by
  -- On the revisions that are left: the first of them decides, or the search through the others.
  induction revisions with
  | nil =>
    refine ⟨[], .ok .null, ended_nil, ?_⟩
    rw [templateAt]
    exact .log_bind (.pure _)
  | cons revision rest ih =>
    obtain ⟨hfirst, hsent⟩ := List.forall_mem_cons.mp hsent
    obtain ⟨htell, htells⟩ := List.forall_mem_cons.mp htells
    obtain ⟨tried, r, hended, hmay⟩ := ih hsent htells
    have hrevision := request_at hfirst hr
    generalize hfinding : finding revision = told at htell
    cases htell with
    | @found v h hrecord hid =>
      exact ⟨[revision], .ok v, ended_found hfinding,
        may_templateAt_found (h.may_send hrevision hkind) hrecord hid⟩
    | @unnamed v h hrecord hid =>
      exact ⟨revision :: tried, r, hended.cons hfinding,
        may_templateAt_unnamed (h.may_send hrevision hkind) hrecord hid hmay⟩
    | @denied f h hdenies =>
      exact ⟨[revision], .error f, ended_denied hfinding,
        may_templateAt_denied (h.may_send hrevision hkind) (h.remoteKind?_eq_auth_iff.mpr hdenies)⟩
    | @failed f h hdenies =>
      obtain ⟨kind, hf⟩ := Option.isSome_iff_exists.mp h.remoteKind?_isSome
      refine ⟨revision :: tried, r, hended.cons hfinding,
        may_templateAt_failed (h.may_send hrevision hkind) hf ?_ hmay⟩
      rintro rfl
      rw [h.remoteKind?_eq_auth_iff.mp hf] at hdenies
      cases hdenies

theorem Tells.ne_null {reply : Reply} {v : Json} (h : Tells target reply (.found v)) :
    v ≠ .null := by
  rintro rfl
  cases h with
  | found _ hrecord _ => cases hrecord

theorem Tells.isAuth {reply : Reply} (h : Tells target reply (.denied f)) :
    f.remoteKind? = some .auth := by
  cases h with
  | denied h hdenies => exact h.remoteKind?_eq_auth_iff.mpr hdenies

theorem Ended.mem_of_concat {before : List String} (h : Ended finding revisions tried r)
    (htried : tried = before ++ [revision]) : revision ∈ revisions :=
  h.first.subset (by simp [htried])

theorem Ended.eq_null_iff (h : Ended finding revisions tried r)
    (htells : ∀ b ∈ revisions, Tells target (serve b) (finding b)) :
    r = .ok .null ↔ tried = revisions ∧ ∀ b ∈ revisions, finding b = .nothing := by
  rcases h.outcome with ⟨before, last, v, htried, -, hlast, rfl⟩ |
    ⟨before, last, f, htried, -, hlast, rfl⟩ | ⟨htried, hall, rfl⟩
  · have hmem := h.mem_of_concat htried
    refine iff_of_false ?_ fun hall => ?_
    · rintro ⟨rfl⟩
      exact (hlast ▸ htells last hmem).ne_null rfl
    · rw [hall.2 last hmem] at hlast
      cases hlast
  · refine iff_of_false nofun fun hall => ?_
    rw [hall.2 last (h.mem_of_concat htried)] at hlast
    cases hlast
  · exact iff_of_true rfl ⟨htried, hall⟩

theorem Ended.isAuth (h : Ended finding revisions tried r)
    (htells : ∀ b ∈ revisions, Tells target (serve b) (finding b)) (hf : r = .error f) :
    f.remoteKind? = some .auth := by
  rcases h.outcome with ⟨_, _, _, -, -, -, rfl⟩ | ⟨before, last, _, htried, -, hlast, rfl⟩ |
    ⟨-, -, rfl⟩
  · cases hf
  · cases hf
    exact (hlast ▸ htells last (h.mem_of_concat htried)).isAuth
  · cases hf

/-- The search for the template of a message that can be asked for, where each reply is a document
of one resource, a refusal or a failure on the way: it tries the first revisions of the chain, up to
the one that decides, and each of them once. -/
theorem templateForMessage_search
    (hr : c.request "GET" (templatePath id) none none .empty = .ok request)
    (hkind : request.url.checkKind = .ok ())
    (htells : ∀ b ∈ c.templateRevisions,
      Tells ("GET " ++ templatePath id) (serve b) (finding b)) :
    c.templateRevisions = c.revision ::
        [stableRevision, "2025-01-15", "2024-10-15.pre"].filter (· ≠ c.revision) ∧
      ∃ tried r, tried.Nodup ∧ Ended finding c.templateRevisions tried r ∧
        (c.templateForMessage id : Task σ Json).Amounts (tried.map (askedAt request serve)) r ∧
        (r = .ok .null ↔
          tried = c.templateRevisions ∧ ∀ b ∈ c.templateRevisions, finding b = .nothing) ∧
        ∀ f, r = .error f → f.remoteKind? = some .auth := by
  obtain ⟨tried, r, hended, hmay⟩ := may_templateAt (σ := σ) hr hkind
    (fun _ => sent_of_mem_templateRevisions) htells
  refine ⟨templateRevisions_eq c, tried, r, ?_, hended, hmay.amounts c.plain_templateForMessage,
    hended.eq_null_iff htells, fun f hf => hended.isAuth htells hf⟩
  exact hended.first.sublist.nodup (nodup_templateRevisions c)

end

/-- The service is late at the client's own revision, knows nothing at the stable one, and has the
template at the next. -/
def servesThird (revision : String) : Reply :=
  if revision = "r" then .timeout "late"
  else if revision = "2025-01-15" then .answer 200 "\x7b\"data\":\x7b\"id\":\"T\"\x7d\x7d"
  else .answer 200 ""

theorem templateForMessage_third : ∃ (v : Json) (request : Request) (tried : List String),
    ((v.member "data").member "id").given = true ∧
      nearby.templateRevisions = ["r", stableRevision, "2025-01-15", "2024-10-15.pre"] ∧
      tried <+: nearby.templateRevisions ∧ tried.getLast? = some "2025-01-15" ∧
      (nearby.templateForMessage (.str "m") : Task Unit Json).Amounts
        (tried.map (askedAt request servesThird)) (.ok v) := by
  obtain ⟨v, hdelivers, hq⟩ := exists_delivers
    "\x7b\"data\":\x7b\"id\":\"T\"\x7d\x7d"
    (fun v => v.holdsRecord && ((v.member "data").member "id").given) (by decide +kernel)
  obtain ⟨hrecord, hid⟩ := Bool.and_eq_true_iff.mp hq
  have htells : ∀ b ∈ nearby.templateRevisions,
      Tells ("GET " ++ templatePath (.str "m")) (servesThird b)
        (if b = "2025-01-15" then .found v else .nothing) := by
    intro b _
    rw [servesThird]
    split_ifs with hfirst hthird
    · exact absurd (hfirst.symm.trans hthird) (by decide)
    · exact .failed (.timeout "late") rfl
    · exact .found hdelivers hrecord hid
    · exact .unnamed (.answer (by decide) (by decide) rfl) rfl rfl
  have hr : nearby.request "GET" (templatePath (.str "m")) none none .empty = .ok _ := rfl
  obtain ⟨hchain, tried, r, -, hended, hamounts, -, -⟩ :=
    templateForMessage_search (σ := Unit) hr rfl htells
  rcases hended.outcome with ⟨before, last, w, rfl, -, hlast, rfl⟩ |
    ⟨before, last, f, rfl, -, hlast, rfl⟩ | ⟨rfl, hall, rfl⟩
  · split_ifs at hlast with hthird
    cases hlast
    exact ⟨v, _, before ++ [last], hid, by decide, hended.first, by simp [hthird], hamounts⟩
  · split_ifs at hlast
  · cases hall "2025-01-15" (by decide)

/-- A message whose id is a line break cannot be asked for, whatever the service has. -/
theorem template_unsendable : ∃ f,
    (nearby.templateForMessage (.str "\n") : Task Unit Json).Amounts [] (.error f) ∧
      f.remoteKind? = none := by
  obtain ⟨f, hf, hremote⟩ : ∃ f, nearby.request "GET" (templatePath (.str "\n")) none
      (some nearby.revision) .empty = .error f ∧ f.remoteKind? = none := ⟨_, rfl, rfl⟩
  refine ⟨f, Task.May.amounts ?_ nearby.plain_templateForMessage, hremote⟩
  rw [templateForMessage, templateRevisions_eq, templateAt]
  refine .result_bind (x := []) (may_unsent hf) ?_
  dsimp only
  rw [hremote]
  exact .throw f

end Client

end MarketingFlow
