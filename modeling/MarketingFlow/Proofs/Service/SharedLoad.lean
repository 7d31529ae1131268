import MarketingFlow.Proofs.Service.CompleteTable

/-!
# One load for all

However the look-ups in one directory take turns, and however often its loader fails, at most one
load is under way at any time and at most one ever succeeds. From then on the directory is loaded
and the loader is left alone. Every look-up that comes to an answer has it from that one listing,
taken in whole; a look-up whose own load failed passes the failure on and leaves the directory as
empty as it was, and open to the next one.
-/

namespace MarketingFlow.Directory

open Outcome

variable {p : Profile} {α β : Type}

/-! ## From one wait to the next -/

theorem settle_bind {l : Program Lookup α} {s s' : Shared} {a : α}
    (h : settle l s = (.done a, s')) (f : α → Program Lookup β) :
    settle (l.bind f) s = settle (f a) s' := by
  induction l generalizing s with
  | done a =>
    cases h
    rfl
  | call c next ih =>
    cases c with
    | read => exact ih _ h f
    | write d => exact ih _ h f
    | release => exact ih _ h f
    | log level text => exact ih _ h f
    | acquire => cases h
    | load => cases h
    | sleep seconds => cases h
  | loop body start next => cases h

/-- What a look-up asks once the directory is loaded. -/
def Question.reply (p : Profile) : Question → LookupM Json
  | .find name => findLoaded p (.str name)
  | .names => do return .arr ((← ask .read).table.map Prod.fst)

/-- What follows the load under the lock. -/
def finish (p : Profile) (q : Question) (r : Except Failure Unit) :
    Program Lookup (Except Failure Json) :=
  .call (I := Lookup) .release fun _ =>
    match r with
    | .ok () => (q.reply p).run
    | .error e => .done (.error e)

/-- What becomes of the outcome of a load. -/
def fillFrom (p : Profile) : Except Failure Json → Program Lookup (Except Failure Unit)
  | .error e => .done (.error e)
  | .ok v => (do
      let entries ← ExceptT.mk (pure v.iterate)
      fill entries
      let d ← ask .read
      ask (.write { d with loaded := true })
      ask (.log .info
        ("Loaded " ++ toString d.table.length ++ " " ++ p.kind ++ "s from account.")) :
      LookupM Unit).run

def afterLoad (p : Profile) (q : Question) (outcome : Except Failure Json) :
    Program Lookup (Except Failure Json) :=
  (fillFrom p outcome).bind (finish p q)

theorem run_ensureLoaded_bind (reply : LookupM Json) :
    (ensureLoaded p >>= fun _ => reply).run = .call (I := Lookup) .acquire fun _ =>
      (loadIfNeeded p).run.bind fun r => .call (I := Lookup) .release fun _ =>
        match r with
        | .ok () => reply.run
        | .error e => .done (.error e) := by
  change Program.call (I := Lookup) .acquire (fun _ =>
    (((loadIfNeeded p).run.bind _).bind _).bind _) = _
  congr 1
  funext _
  rw [Program.bind_assoc, Program.bind_assoc]
  congr 1
  funext r
  rcases r with e | ⟨⟩ <;> rfl

theorem program_eq (q : Question) : q.program p =
    .call (I := Lookup) .acquire fun _ => (loadIfNeeded p).run.bind (finish p q) := by
  cases q with
  | find name => exact run_ensureLoaded_bind _
  | names =>
    rw [Question.program, names, bind_assoc]
    exact run_ensureLoaded_bind _

theorem run_loadIfNeeded : (loadIfNeeded p).run = .call (I := Lookup) .read fun d =>
    if d.loaded then .done (.ok ())
    else .call (I := Lookup) (.log .info ("Loading account " ++ p.kind ++ "s...")) fun _ =>
      (load p).run.bind (fillFrom p) := by
  rw [loadIfNeeded, run_bind_eq]
  change Program.call (I := Lookup) .read _ = _
  congr 1
  funext d
  obtain ⟨table, loaded⟩ := d
  cases loaded with
  | true => rfl
  | false =>
    change Program.call (I := Lookup) _ _ = Program.call (I := Lookup) _ _
    congr 1
    funext _
    change ((((load p).run.bind _).bind _)) = _
    rw [Program.bind_assoc]
    congr 1
    funext r
    cases r <;> rfl

/-! ## What a look-up leaves behind -/

/-- The directory that a listing makes. -/
def ofListing (l : Listing) : Directory :=
  ⟨l.firsts.table, true⟩

theorem settle_read_bind (f : Call.Answer .read → LookupM α) (s : Shared) :
    settle (ask .read >>= f).run s = settle (f s.directory).run s := rfl

theorem settle_known_bind {r : Except Failure α} {a : α} (h : r = .ok a) (f : α → LookupM β)
    (s : Shared) : settle (ExceptT.mk (pure r) >>= f).run s = settle (f a).run s := by
  rw [h]
  rfl

theorem settle_reply (q : Question) (l : Listing) (locked : Bool) :
    settle (q.reply p).run ⟨ofListing l, locked⟩ =
      (.done (.ok (l.answer q)), ⟨ofListing l, locked⟩) := by
  cases q with
  | names =>
    rw [Listing.answer, ← Listing.map_fst_firsts]
    change (Program.done (Except.ok (Json.arr _)), _) = _
    simp [Listing.table, ofListing]
  | find name =>
    have hid := Listing.idOf?_table l.firsts name
    have hfuzzy := Listing.fuzzy_table l.firsts name
    rw [Listing.find?_firsts fun n => n == name] at hid
    rw [Listing.find?_firsts (alike name)] at hfuzzy
    rw [Listing.answer, Listing.idOf, Question.reply, findLoaded, settle_read_bind]
    dsimp only [ofListing]
    rw [settle_known_bind (Json.asKey_str name), hid]
    cases l.find? fun x => x.1 == name with
    | some x => rfl
    | none =>
      dsimp only [Option.map_none]
      rw [settle_known_bind (show folded (.str name) = .ok (Text.lower name) from rfl)]
      cases (Text.lower name).isEmpty with
      | true => rfl
      | false =>
        rw [if_neg Bool.false_ne_true, if_neg Bool.false_ne_true, settle_known_bind hfuzzy]
        cases l.find? fun x => alike name x.1 <;> rfl

theorem settle_finish_ok (q : Question) (l : Listing) (locked : Bool) :
    settle (finish p q (.ok ())) ⟨ofListing l, locked⟩ =
      (.done (.ok (l.answer q)), ⟨ofListing l, false⟩) :=
  settle_reply q l false

theorem settle_fill {entries : List Json} (h : ∀ entry ∈ entries, entry.isEntry = true)
    (l : Listing) (loaded locked : Bool) :
    settle (fill entries).run ⟨⟨l.table, loaded⟩, locked⟩ = (.done (.ok ()),
      ⟨⟨((Listing.ofEntries entries).foldl Listing.add l).table, loaded⟩, locked⟩) := by
  induction entries generalizing l with
  | nil => rfl
  | cons entry rest ih =>
    obtain ⟨hentry, hrest⟩ := List.forall_mem_cons.mp h
    rw [fill, settle_read_bind, settle_known_bind (Listing.addEntry_table l hentry)]
    change settle (fill rest).run _ = _
    rw [ih hrest, Listing.ofEntries, Listing.ofEntries, List.filterMap_cons]
    cases entry.named? <;> rfl

/-- A listing is taken in whole before anybody else can see the table. -/
theorem settle_afterLoad_ok (q : Question) {entries : List Json}
    (h : ∀ entry ∈ entries, entry.isEntry = true) :
    settle (afterLoad p q (.ok (.arr entries))) ⟨.empty, true⟩ =
      (.done (.ok ((Listing.ofEntries entries).answer q)),
        ⟨ofListing (.ofEntries entries), false⟩) := by
  have hfill : settle (fillFrom p (.ok (.arr entries))) ⟨.empty, true⟩ =
      (.done (.ok ()), ⟨ofListing (.ofEntries entries), true⟩) := by
    change settle ((fill entries).run.bind _) ⟨⟨Listing.table [], false⟩, true⟩ = _
    rw [settle_bind (settle_fill h [] false true)]
    rfl
  rw [afterLoad, settle_bind hfill, settle_finish_ok]

theorem settle_afterLoad_error (q : Question) (e : Failure) (d : Directory) (locked : Bool) :
    settle (afterLoad p q (.error e)) ⟨d, locked⟩ = (.done (.error e), ⟨d, false⟩) :=
  rfl

/-- With the lock, a look-up answers at once from a directory that is loaded. -/
theorem settle_loaded (q : Question) (l : Listing) (locked : Bool) :
    settle ((loadIfNeeded p).run.bind (finish p q)) ⟨ofListing l, locked⟩ =
      (.done (.ok (l.answer q)), ⟨ofListing l, false⟩) := by
  rw [run_loadIfNeeded]
  exact settle_finish_ok q l locked

theorem settle_empty (q : Question) (locked : Bool) :
    settle ((loadIfNeeded p).run.bind (finish p q)) ⟨.empty, locked⟩ =
      settle ((load p).run.bind (afterLoad p q)) ⟨.empty, locked⟩ := by
  rw [run_loadIfNeeded]
  change settle ((((load p).run.bind (fillFrom p))).bind (finish p q)) _ = _
  rw [Program.bind_assoc]
  rfl

/-! ## The load under way -/

def loadOnce : Program Lookup (Except Failure Json) :=
  Program.ask (I := Lookup) .load

/-- A load that is about to begin: a single one, or the next of the attempts at one. -/
inductive Attempt (p : Profile) : Program Lookup (Except Failure Json) → Prop where
  | once (h : p.retry = none) : Attempt p loadOnce
  | retried {o : RetryOptions Number} (h : p.retry = some o) (label : String) (n left : Nat) :
      Attempt p (attemptFrom loadOnce label o n left)

theorem attempt_load : Attempt p (load p).run := by
  obtain ⟨kind, _ | o⟩ := p
  · exact .once rfl
  · exact .retried rfl _ 1 _

/-- The failure of a load whose last attempt failed: the same, under retry with a note, or that the
pause before another attempt cannot be computed. -/
def PassesOn (retry : Option (RetryOptions Number)) (f e : Failure) : Prop :=
  match retry with
  | none => e = f
  | some o => (∃ note, e = f.addNote note) ∨ ∃ n : Nat, o.delayAfter n = .error e

/-- After an outcome of the loader the load is over, or it pauses before another attempt. -/
theorem settle_attempt {m : Program Lookup (Except Failure Json)} (h : Attempt p m) :
    ∃ next, m = .call (I := Lookup) .load next ∧
      (∀ v (f : Except Failure Json → Program Lookup (Except Failure Json)) s,
        settle ((next (.ok v)).bind f) s = settle (f (.ok v)) s) ∧
      ∀ x, (∃ e, PassesOn p.retry x e ∧
          ∀ (f : Except Failure Json → Program Lookup (Except Failure Json)) s,
            settle ((next (.error x)).bind f) s = settle (f (.error e)) s) ∨
        ∃ delay m', Attempt p m' ∧
          ∀ (f : Except Failure Json → Program Lookup (Except Failure Json)) s,
            settle ((next (.error x)).bind f) s =
              (.call (I := Lookup) (.sleep delay) fun _ => m'.bind f, s) := by
  cases h with
  | once h =>
    refine ⟨.done, rfl, fun _ _ _ => rfl, fun x => .inl ⟨x, ?_, fun _ _ => rfl⟩⟩
    simp only [PassesOn, h]
  | @retried o h label n left =>
    rw [attemptFrom.eq_def]
    refine ⟨_, rfl, fun v f s => ?_, fun x => ?_⟩
    · dsimp only [Program.bind_done]
      split <;> rfl
    · simp only [PassesOn, h]
      -- It is over at once, after the last attempt, or where no pause can be computed.
      cases hretryable : x.isRetryable o.retryable with
      | false =>
        refine .inl ⟨x.addNote (label ++ ": non-retryable failure on attempt " ++ toString n),
          .inl ⟨_, rfl⟩, fun _ _ => ?_⟩
        simp only [Program.bind, hretryable]
        rfl
      | true =>
        cases left with
        | zero =>
          refine .inl ⟨x.addNote (label ++ ": failed after " ++ toString n ++ " attempt(s)"),
            .inl ⟨_, rfl⟩, fun _ _ => ?_⟩
          simp only [Program.bind, hretryable]
          rfl
        | succ left =>
          cases hdelay : o.delayAfter n with
          | error e =>
            refine .inl ⟨e, .inr ⟨n, hdelay⟩, fun _ _ => ?_⟩
            simp only [Program.bind, hretryable]
            rfl
          | ok delay =>
            refine .inr ⟨delay, _, .retried h label (n + 1) left, fun _ _ => ?_⟩
            simp only [Program.bind, hretryable]
            rfl

/-! ## Turns -/

namespace Turn

def loads : Turn → Bool
  | .answer _ (.ok _) => true
  | _ => false

def listing? : Turn → Option Listing
  | .answer _ (.ok (.arr entries)) => some (.ofEntries entries)
  | _ => none

/-- What the loader comes to, if anything, is a listing of entries or a failure. -/
def InOrder : Turn → Prop
  | .answer _ outcome => Lists (fun _ => True) outcome
  | _ => True

theorem isSome_listing? {t : Turn} (h : t.InOrder) : t.listing?.isSome = t.loads := by
  cases t with
  | answer i outcome =>
    cases outcome with
    | error e => rfl
    | ok v =>
      obtain ⟨entries, rfl, -⟩ := h
      rfl
  | _ => rfl

end Turn

/-- The listing of the first load that succeeded. -/
def listing? (turns : List Turn) : Option Listing :=
  turns.findSome? Turn.listing?

/-- A load is under way, or will be made again after a pause. -/
def Inquiry.works (c : Inquiry) : Bool :=
  match c.rest with
  | .call .load _ => true
  | .call (.sleep _) _ => true
  | _ => false

section

variable {turns : List Turn} {t : Turn} {a a' : Assembly} {i : Nat} {q : Question}
  {rest : Program Lookup (Except Failure Json)} {e : Failure}

theorem listing?_concat : listing? (turns ++ [t]) = (listing? turns).or t.listing? := by
  rw [listing?, listing?, List.findSome?_append, List.findSome?_singleton]

theorem listing?_concat_of_eq_none (ht : t.listing? = none) :
    listing? (turns ++ [t]) = listing? turns := by
  rw [listing?_concat, ht, Option.or_none]

/-- The look-up came to the failure at a turn at which its load failed, and left the directory empty
and open. -/
def Failed (p : Profile) (turns : List Turn) (i : Nat) (e : Failure) : Prop :=
  ∃ before f later a, turns = before ++ .answer i (.error f) :: later ∧ PassesOn p.retry f e ∧
    Assembly.after p (before ++ [.answer i (.error f)]) = some a ∧ a.shared = ⟨.empty, false⟩

/-- Where a look-up stands. -/
inductive Phase (p : Profile) (turns : List Turn) (i : Nat) (q : Question) :
    Program Lookup (Except Failure Json) → Prop where
  | waiting : Phase p turns i q (.call (I := Lookup) .acquire fun _ =>
      (loadIfNeeded p).run.bind (finish p q))
  | loading {next : Except Failure Json → Program Lookup (Except Failure Json)}
      (hm : Attempt p (.call (I := Lookup) .load next)) :
      Phase p turns i q (.call (I := Lookup) .load fun x => (next x).bind (afterLoad p q))
  | pausing {m : Program Lookup (Except Failure Json)} (hm : Attempt p m) (delay : Number) :
      Phase p turns i q (.call (I := Lookup) (.sleep delay) fun _ => m.bind (afterLoad p q))
  | answered {l : Listing} (hl : listing? turns = some l) :
      Phase p turns i q (.done (.ok (l.answer q)))
  | failed {e : Failure} (he : Failed p turns i e) : Phase p turns i q (.done (.error e))

theorem Phase.of_attempt {m : Program Lookup (Except Failure Json)} (hm : Attempt p m) :
    Phase p turns i q (m.bind (afterLoad p q)) := by
  obtain ⟨next, rfl, -, -⟩ := settle_attempt hm
  exact .loading hm

theorem Failed.concat (h : Failed p turns i e) (t : Turn) : Failed p (turns ++ [t]) i e := by
  obtain ⟨before, f, later, a, rfl, hpasses, hafter, hshared⟩ := h
  exact ⟨before, f, later ++ [t], a, by simp, hpasses, hafter, hshared⟩

theorem Phase.concat (h : Phase p turns i q rest) (t : Turn) :
    Phase p (turns ++ [t]) i q rest := by
  cases h with
  | waiting => exact .waiting
  | loading hm => exact .loading hm
  | pausing hm delay => exact .pausing hm delay
  | answered hl =>
    refine .answered ?_
    rw [listing?_concat, hl, Option.some_or]
  | failed he => exact .failed (he.concat t)

/-! ## Taking a turn -/

theorem Assembly.resume_eq {rest' : Program Lookup (Except Failure Json)} {s : Shared}
    (h : settle rest a.shared = (rest', s)) :
    a.resume i q rest = ⟨s, a.inquiries.set i ⟨q, rest'⟩⟩ := by
  rw [resume, h]

theorem take_enter (h : a.take p (.enter i) = some a') : ∃ q next,
    a.inquiries[i]? = some ⟨q, .call (I := Lookup) .acquire next⟩ ∧ a.shared.locked = false ∧
      a' = Assembly.resume ⟨⟨a.shared.directory, true⟩, a.inquiries⟩ i q (next ()) := by
  rw [Assembly.take] at h
  split at h
  next q next hc =>
    split at h
    · cases h
    next hfree =>
      cases h
      exact ⟨q, next, hc, Bool.eq_false_iff.mpr hfree, rfl⟩
  · cases h

theorem take_answer {outcome : Except Failure Json} (h : a.take p (.answer i outcome) = some a') :
    ∃ q next, a.inquiries[i]? = some ⟨q, .call (I := Lookup) .load next⟩ ∧
      a' = a.resume i q (next outcome) := by
  rw [Assembly.take] at h
  split at h
  next q next hc =>
    cases h
    exact ⟨q, next, hc, rfl⟩
  · cases h

theorem take_wake (h : a.take p (.wake i) = some a') : ∃ q delay next,
    a.inquiries[i]? = some ⟨q, .call (I := Lookup) (.sleep delay) next⟩ ∧
      a' = a.resume i q (next ()) := by
  rw [Assembly.take] at h
  split at h
  next q delay next hc =>
    cases h
    exact ⟨q, delay, next, hc, rfl⟩
  · cases h

/-! ## What holds after all turns -/

/-- How the look-ups stand to each other after some turns. -/
structure Shares (p : Profile) (turns : List Turn) (a : Assembly) : Prop where
  reached : Assembly.after p turns = some a
  directory : a.shared.directory = (listing? turns).elim .empty ofListing
  phases : ∀ i c, a.inquiries[i]? = some c → Phase p turns i c.question c.rest
  working : a.inquiries.countP Inquiry.works = if a.shared.locked then 1 else 0
  unlisted : a.shared.locked = true → listing? turns = none
  once : turns.countP Turn.loads = if (listing? turns).isSome then 1 else 0

theorem shares_start : Shares p [] .start where
  reached := rfl
  directory := rfl
  phases i c h := by cases h
  working := rfl
  unlisted := fun _ => rfl
  once := rfl

theorem after_concat (h : Assembly.after p turns = some a) (ht : a.take p t = some a') :
    Assembly.after p (turns ++ [t]) = some a' := by
  rw [Assembly.after, List.foldlM_append]
  change (Assembly.after p turns).bind _ = _
  rw [h, Option.bind_some, List.foldlM_cons, ht]
  rfl

theorem once_concat (h : Shares p turns a) (ht : t.InOrder)
    (hloads : t.loads = true → listing? turns = none) :
    (turns ++ [t]).countP Turn.loads = if (listing? (turns ++ [t])).isSome then 1 else 0 := by
  rw [List.countP_append, h.once, List.countP_singleton, listing?_concat, ← Turn.isSome_listing? ht]
  rw [← Turn.isSome_listing? ht] at hloads
  cases hl : t.listing? with
  | none => simp
  | some l => simp [hloads (by rw [hl]; rfl)]

section

variable (h : Shares p turns a) {c : Inquiry} (hc : a.inquiries[i]? = some c)

include h hc

theorem Shares.locked (hworks : c.works = true) : a.shared.locked = true := by
  have hcount : 0 < a.inquiries.countP Inquiry.works :=
    List.countP_pos_iff.mpr ⟨c, List.mem_of_getElem? hc, hworks⟩
  rw [h.working] at hcount
  cases hlocked : a.shared.locked with
  | true => rfl
  | false => simp [hlocked] at hcount

theorem Shares.set {s : Shared}
    (ht : a.take p t = some ⟨s, a.inquiries.set i ⟨q, rest⟩⟩)
    (hdirectory : s.directory = (listing? (turns ++ [t])).elim .empty ofListing)
    (hphase : Phase p (turns ++ [t]) i q rest)
    (hworking : (if s.locked then 1 else 0) =
      ((if a.shared.locked then 1 else 0) - if c.works then 1 else 0) +
        if Inquiry.works ⟨q, rest⟩ then 1 else 0)
    (hunlisted : s.locked = true → listing? (turns ++ [t]) = none)
    (honce : (turns ++ [t]).countP Turn.loads =
      if (listing? (turns ++ [t])).isSome then 1 else 0) :
    Shares p (turns ++ [t]) ⟨s, a.inquiries.set i ⟨q, rest⟩⟩ where
  reached := after_concat h.reached ht
  directory := hdirectory
  phases j d hd := by
    rw [List.getElem?_set] at hd
    split at hd
    next hij =>
      split at hd
      · cases hd
        exact hij ▸ hphase
      · cases hd
    next => exact (h.phases j d hd).concat t
  working := by
    -- Only this look-up changes, so the count does by what it was and what it becomes.
    obtain ⟨hi, rfl⟩ := List.getElem?_eq_some_iff.mp hc
    rw [List.countP_set hi, h.working]
    exact hworking.symm
  unlisted := hunlisted
  once := honce

end

/-! ## One turn -/

theorem settle_loading {m : Program Lookup (Except Failure Json)} (hm : Attempt p m) (q : Question)
    (s : Shared) : settle (m.bind (afterLoad p q)) s = (m.bind (afterLoad p q), s) := by
  obtain ⟨next, rfl, -, -⟩ := settle_attempt hm
  rfl

theorem works_loading {m : Program Lookup (Except Failure Json)} (hm : Attempt p m) (q : Question) :
    Inquiry.works ⟨q, m.bind (afterLoad p q)⟩ = true := by
  obtain ⟨next, rfl, -, -⟩ := settle_attempt hm
  rfl

section

variable (h : Shares p turns a)

include h

theorem Shares.ask (q : Question) : Shares p (turns ++ [.ask q])
    { a with inquiries := a.inquiries ++ [⟨q, q.program p⟩] } where
  reached := after_concat h.reached rfl
  directory := by
    rw [listing?_concat_of_eq_none rfl]
    exact h.directory
  phases j c hc := by
    rw [List.getElem?_append] at hc
    split at hc
    · exact (h.phases j c hc).concat _
    · obtain ⟨-, rfl⟩ : _ ∧ (⟨q, q.program p⟩ : Inquiry) = c := by
        simpa [List.getElem?_eq_some_iff] using hc
      rw [program_eq]
      exact .waiting
  working := by
    have hwaits : Inquiry.works ⟨q, q.program p⟩ = false := by
      rw [program_eq]
      rfl
    rw [List.countP_append, h.working, List.countP_singleton, hwaits]
    rfl
  unlisted hlocked := by
    rw [listing?_concat_of_eq_none rfl]
    exact h.unlisted hlocked
  once := once_concat h trivial nofun

theorem Shares.enter (hstep : a.take p (.enter i) = some a') :
    Shares p (turns ++ [.enter i]) a' := by
  obtain ⟨q, next, hc, hfree, rfl⟩ := take_enter hstep
  have hphase : Phase p turns i q (.call (I := Lookup) .acquire next) := h.phases i _ hc
  cases hphase
  have hsame : listing? (turns ++ [.enter i]) = listing? turns := listing?_concat_of_eq_none rfl
  have honce := once_concat (t := .enter i) h trivial nofun
  cases hl : listing? turns with
  | none =>
    rw [hl] at hsame
    have hsettle : settle ((loadIfNeeded p).run.bind (finish p q)) ⟨a.shared.directory, true⟩ =
        ((load p).run.bind (afterLoad p q), ⟨.empty, true⟩) := by
      rw [h.directory, hl]
      exact (settle_empty q true).trans (settle_loading attempt_load q _)
    rw [Assembly.resume_eq hsettle] at hstep ⊢
    refine h.set hc hstep ?_ (.of_attempt attempt_load) ?_ (fun _ => hsame) honce
    · rw [hsame]
      rfl
    · rw [works_loading attempt_load, hfree]
      rfl
  | some l =>
    rw [hl] at hsame
    have hsettle : settle ((loadIfNeeded p).run.bind (finish p q)) ⟨a.shared.directory, true⟩ =
        (.done (.ok (l.answer q)), ⟨ofListing l, false⟩) := by
      rw [h.directory, hl]
      exact settle_loaded q l true
    rw [Assembly.resume_eq hsettle] at hstep ⊢
    refine h.set hc hstep ?_ (.answered hsame) ?_ nofun honce
    · rw [hsame]
      rfl
    · rw [hfree]
      rfl

theorem Shares.wake (hstep : a.take p (.wake i) = some a') :
    Shares p (turns ++ [.wake i]) a' := by
  obtain ⟨q, delay, next, hc, rfl⟩ := take_wake hstep
  have hlocked := h.locked hc rfl
  have hphase : Phase p turns i q (.call (I := Lookup) (.sleep delay) next) := h.phases i _ hc
  cases hphase with
  | pausing hm delay =>
    have hsame : listing? (turns ++ [.wake i]) = listing? turns := listing?_concat_of_eq_none rfl
    rw [Assembly.resume_eq (settle_loading hm q _)] at hstep ⊢
    refine h.set hc hstep ?_ (.of_attempt hm) ?_ ?_ (once_concat h trivial nofun)
    · rw [hsame]
      exact h.directory
    · rw [works_loading hm, hlocked]
      rfl
    · rw [hsame]
      exact h.unlisted

/-- The loader answers only while nobody has seen a listing yet. -/
theorem Shares.take_answer {outcome : Except Failure Json}
    (hstep : a.take p (.answer i outcome) = some a') :
    ∃ c next, a.inquiries[i]? = some c ∧ c.works = true ∧
      Attempt p (.call (I := Lookup) .load next) ∧ a.shared = ⟨.empty, true⟩ ∧
      listing? turns = none ∧
      a' = a.resume i c.question ((next outcome).bind (afterLoad p c.question)) := by
  obtain ⟨q, next, hc, rfl⟩ := Directory.take_answer hstep
  have hlocked := h.locked hc rfl
  have hnone := h.unlisted hlocked
  have hshared : a.shared = ⟨.empty, true⟩ := by
    have hdirectory := h.directory
    rw [hnone] at hdirectory
    rw [← hlocked]
    exact congrArg (Shared.mk · a.shared.locked) hdirectory
  have hphase : Phase p turns i q (.call (I := Lookup) .load next) := h.phases i _ hc
  cases hphase with
  | loading hm => exact ⟨_, _, hc, rfl, hm, hshared, hnone, rfl⟩

/-- After a failure of the loader the look-up passes it on, or it pauses with the lock. -/
theorem Shares.take_failure {f : Failure} (hstep : a.take p (.answer i (.error f)) = some a') :
    ∃ c, a.inquiries[i]? = some c ∧ c.works = true ∧
      ((∃ e, PassesOn p.retry f e ∧
          a' = ⟨⟨.empty, false⟩, a.inquiries.set i ⟨c.question, .done (.error e)⟩⟩) ∨
        ∃ delay m, Attempt p m ∧ a' = ⟨⟨.empty, true⟩, a.inquiries.set i ⟨c.question,
          .call (I := Lookup) (.sleep delay) fun _ => m.bind (afterLoad p c.question)⟩⟩) := by
  obtain ⟨c, next, hc, hworks, hm, hshared, -, rfl⟩ := h.take_answer hstep
  obtain ⟨_, ⟨rfl⟩, -, herror⟩ := settle_attempt hm
  refine ⟨c, hc, hworks, ?_⟩
  rcases herror f with ⟨e, hpasses, hsettle⟩ | ⟨delay, m, hm', hsettle⟩
  · refine .inl ⟨e, hpasses, Assembly.resume_eq ?_⟩
    rw [hsettle, hshared, settle_afterLoad_error]
  · refine .inr ⟨delay, m, hm', Assembly.resume_eq ?_⟩
    rw [hsettle, hshared]

theorem Shares.answer {outcome : Except Failure Json} (houtcome : Lists (fun _ => True) outcome)
    (hstep : a.take p (.answer i outcome) = some a') :
    Shares p (turns ++ [.answer i outcome]) a' := by
  obtain ⟨c, next, hc, hworks, hm, hshared, hnone, ha'⟩ := h.take_answer hstep
  have honce := once_concat (t := .answer i outcome) h houtcome fun _ => hnone
  have hlisting : listing? (turns ++ [.answer i outcome]) = (Turn.answer i outcome).listing? := by
    rw [listing?_concat, hnone, Option.none_or]
  have hdone : ((if a.shared.locked then 1 else 0) - if c.works then 1 else 0) = 0 := by
    rw [hshared, hworks]
    rfl
  cases outcome with
  | ok v =>
    obtain ⟨entries, rfl, hentries⟩ := houtcome
    obtain ⟨_, ⟨rfl⟩, hok, -⟩ := settle_attempt hm
    have hsettle : settle ((next (.ok (.arr entries))).bind (afterLoad p c.question)) a.shared =
        (.done (.ok ((Listing.ofEntries entries).answer c.question)),
          ⟨ofListing (.ofEntries entries), false⟩) := by
      rw [hok, hshared]
      exact settle_afterLoad_ok c.question hentries
    rw [Assembly.resume_eq hsettle] at ha'
    subst ha'
    refine h.set hc hstep ?_ (.answered hlisting) ?_ nofun honce
    · rw [hlisting]
      rfl
    · rw [hdone]
      rfl
  | error f =>
    obtain ⟨c', hc', -, ⟨e, hpasses, rfl⟩ | ⟨delay, m, hm', rfl⟩⟩ := h.take_failure hstep
    · have hafter := after_concat h.reached hstep
      cases hc.symm.trans hc'
      refine h.set hc hstep ?_ (.failed ⟨turns, f, [], _, rfl, hpasses, hafter, rfl⟩) ?_ nofun honce
      · rw [hlisting]
        rfl
      · rw [hdone]
        rfl
    · cases hc.symm.trans hc'
      refine h.set hc hstep ?_ (.pausing hm' delay) ?_ (fun _ => hlisting) honce
      · rw [hlisting]
        rfl
      · rw [hdone]
        rfl

theorem Shares.step (ht : t.InOrder) (hstep : a.take p t = some a') :
    Shares p (turns ++ [t]) a' := by
  cases t with
  | ask q =>
    cases hstep
    exact h.ask q
  | enter i => exact h.enter hstep
  | answer i outcome => exact h.answer ht hstep
  | wake i => exact h.wake hstep

end

theorem shares_of_after (hturns : ∀ t ∈ turns, t.InOrder)
    (hafter : Assembly.after p turns = some a) : Shares p turns a := by
  -- from the last turn, since the invariant tells of all turns so far
  induction turns using List.reverseRecOn generalizing a with
  | nil =>
    cases hafter
    exact shares_start
  | append_singleton turns t ih =>
    rw [Assembly.after, List.foldlM_append] at hafter
    obtain ⟨b, hb, hstep⟩ := Option.bind_eq_some_iff.mp hafter
    rw [List.foldlM_cons] at hstep
    obtain ⟨a', hstep, ⟨⟩⟩ := Option.bind_eq_some_iff.mp hstep
    have hb := ih (fun t ht => hturns t (List.mem_append_left _ ht)) hb
    exact hb.step (hturns t (by simp)) hstep

/-- What look-ups side by side may rely on, whatever turns were taken. -/
structure OneLoad (p : Profile) (turns : List Turn) (a : Assembly) : Prop where
  /-- At most one load is under way, a pause between two attempts included. -/
  alone : a.inquiries.countP Inquiry.works ≤ 1
  /-- The lock is held while one is, and only then. -/
  guarded : a.shared.locked = true ↔ ∃ c ∈ a.inquiries, c.works = true
  /-- At most one load ever succeeds. -/
  once : turns.countP Turn.loads ≤ 1
  /-- From then on, and not before, the directory is loaded, -/
  loaded : a.shared.directory.loaded = true ↔ ∃ t ∈ turns, t.loads = true
  /-- and the loader is left alone. -/
  rests : (∃ t ∈ turns, t.loads = true) → ∀ c ∈ a.inquiries, c.works = false
  /-- Every answer is that of the whole listing that was loaded. -/
  answers : ∀ c ∈ a.inquiries, ∀ v, c.rest = .done (.ok v) → ∃ i entries,
    .answer i (.ok (.arr entries)) ∈ turns ∧ v = (Listing.ofEntries entries).answer c.question
  /-- Whoever failed did so at the turn at which its own load failed. -/
  failures : ∀ i c e, a.inquiries[i]? = some c → c.rest = .done (.error e) → Failed p turns i e
  /-- When an attempt fails, nothing is known yet, and either the look-up tries again or it passes
  the failure on and gives the lock back. -/
  retreats : ∀ i f a', a.take p (.answer i (.error f)) = some a' →
    a'.shared.directory = .empty ∧ ∃ c, a'.inquiries[i]? = some c ∧
      (c.works = true ∨
        a'.shared.locked = false ∧ ∃ e, PassesOn p.retry f e ∧ c.rest = .done (.error e))

theorem isSome_listing?_iff (hturns : ∀ t ∈ turns, t.InOrder) :
    (listing? turns).isSome = true ↔ ∃ t ∈ turns, t.loads = true := by
  rw [listing?, List.findSome?_isSome_iff]
  refine exists_congr fun t => and_congr_right fun ht => ?_
  rw [Turn.isSome_listing? (hturns t ht)]

theorem eq_of_listing? {l : Listing} (h : listing? turns = some l) :
    ∃ i entries, .answer i (.ok (.arr entries)) ∈ turns ∧ l = .ofEntries entries := by
  obtain ⟨t, ht, hl⟩ := List.exists_of_findSome?_eq_some h
  rw [Turn.listing?.eq_def] at hl
  split at hl
  · cases hl
    exact ⟨_, _, ht, rfl⟩
  · cases hl

/-- However look-ups take turns, they share one load. -/
theorem oneLoad_of_turns (hturns : ∀ t ∈ turns, t.InOrder)
    (hafter : Assembly.after p turns = some a) : OneLoad p turns a := by
  have h := shares_of_after hturns hafter
  have hguarded : a.shared.locked = true ↔ ∃ c ∈ a.inquiries, c.works = true := by
    rw [← List.countP_pos_iff, h.working]
    cases a.shared.locked <;> simp
  exact {
    alone := by
      rw [h.working]
      split <;> decide
    guarded := hguarded
    once := by
      rw [h.once]
      split <;> decide
    loaded := by
      rw [h.directory, ← isSome_listing?_iff hturns]
      cases listing? turns <;> simp [ofListing, Directory.empty]
    rests := fun hloaded c hc => by
      cases hworks : c.works with
      | false => rfl
      | true =>
        have hnone := h.unlisted (hguarded.mpr ⟨c, hc, hworks⟩)
        rw [← isSome_listing?_iff hturns, hnone] at hloaded
        cases hloaded
    answers := fun c hc v hv => by
      obtain ⟨i, hi⟩ := List.getElem?_of_mem hc
      have hphase := h.phases i c hi
      rw [hv] at hphase
      cases hphase with
      | answered hl =>
        obtain ⟨j, entries, hmem, rfl⟩ := eq_of_listing? hl
        exact ⟨j, entries, hmem, rfl⟩
    failures := fun i c e hc he => by
      have hphase := h.phases i c hc
      rw [he] at hphase
      cases hphase with
      | failed hfailed => exact hfailed
    retreats := fun i f a' hstep => by
      obtain ⟨c, hc, -, hafter⟩ := h.take_failure hstep
      have hi := (List.getElem?_eq_some_iff.mp hc).1
      rcases hafter with ⟨e, hpasses, rfl⟩ | ⟨delay, m, -, rfl⟩
      · exact ⟨rfl, _, List.getElem?_set_self hi, .inr ⟨rfl, e, hpasses, rfl⟩⟩
      · exact ⟨rfl, _, List.getElem?_set_self hi, .inl rfl⟩ }

def twice : Profile :=
  ⟨"metric", some ⟨2, .int 0, .int 1, .int 0, RetryOptions.transient⟩⟩

def twoMetrics : List Json :=
  [.obj [("id", .str "M1"), ("name", .str "Started Checkout")],
    .obj [("id", .str "M2"), ("name", .str "Placed Order")],
    .obj [("id", .null), ("name", .str "Broken")]]

/-- Three look-ups; the first to load gives up, the next finds the listing. -/
def threeLookups : List Turn :=
  let down : Except Failure Json := .error { cause := .remote .network "down" .null .null }
  [.ask (.find "Placed Order"), .ask (.find "checkout"), .enter 0, .answer 0 down, .wake 0,
    .answer 0 down, .enter 1, .ask .names,
    .answer 1 (.ok (.arr twoMetrics)), .enter 2]

theorem oneLoad_of_threeLookups : ∃ a, Assembly.after twice threeLookups = some a ∧
    (a.inquiries.map fun c => c.rest.result?.map fun r => r.toOption.map Json.text) =
      [some none, some (some "M1"), some (some "['Started Checkout', 'Placed Order']")] ∧
    OneLoad twice threeLookups a := by
  have hrun : ((Assembly.after twice threeLookups).map fun a =>
      a.inquiries.map fun c => c.rest.result?.map fun r => r.toOption.map Json.text) =
        some [some none, some (some "M1"), some (some "['Started Checkout', 'Placed Order']")] := by
    decide +kernel
  have hentries : ∀ entry ∈ twoMetrics, entry.isEntry = true := by decide
  have hturns : ∀ t ∈ threeLookups, t.InOrder := by
    simpa [threeLookups, Turn.InOrder, Lists] using hentries
  obtain ⟨a, hafter, hanswers⟩ := Option.map_eq_some_iff.mp hrun
  exact ⟨a, hafter, hanswers, oneLoad_of_turns hturns hafter⟩

end

end MarketingFlow.Directory
