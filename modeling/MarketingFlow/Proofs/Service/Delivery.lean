import MarketingFlow.Proofs.Service.ClosedPayload
import MarketingFlow.Proofs.Service.ContentPass
import MarketingFlow.Proofs.Service.Requests

/-!
# Pages and the emails they are for

The content pass goes through the emails of a payload in order, each with the remote action in the
same place. What it asks for falls into one segment for each email that has a page and a remote
action with an id: the messages of that action are fetched first, and then no template is given any
other page. A page that is not stored leaves a warning.
-/

namespace MarketingFlow

open Outcome

variable {σ : Type}

/-! ## Listings -/

/-- The type of the resource is that of an email. -/
def Json.sendsEmail (v : Json) : Bool :=
  match isEmailResource v with
  | .ok b => b
  | .error _ => false

theorem Json.correlate_eq {ordered : List Action} {resources : List Json} {type : String}
    {pairs : List (Action × Json)}
    (h : correlate ordered resources type isEmailResource = .ok pairs) :
    pairs = (ordered.filter fun a => a.typeName == type).zip (resources.filter sendsEmail) := by
  obtain ⟨remote, hremote, h⟩ := bind_eq_ok_iff.mp h
  cases h
  rw [filterM_eq (p := sendsEmail) (fun v b hb => by rw [sendsEmail, hb]) hremote]

/-- Only the items of an array can be told to be actions. -/
theorem Json.orNone_eq_arr {v : Json} {xs : List Json} (h : v.orNone.iterate = .ok xs)
    (hall : xs.all isActionResource = true) : v.orNone = .arr xs := by
  rw [orNone, orElse] at *
  cases hgiven : v.given with
  | false =>
    rw [hgiven] at h
    cases h
    rfl
  | true =>
    simp only [hgiven, if_true] at h ⊢
    cases v with
    | arr items =>
      cases h
      rfl
    | obj ms =>
      cases h
      cases ms with
      | nil => cases hgiven
      | cons m ms => simp [isActionResource, isObject] at hall
    | str s =>
      cases h
      obtain ⟨x, rest, hs⟩ := singles_ne_nil (s := s) (by simpa [given] using hgiven)
      rw [hs] at hall
      simp [isActionResource, isObject] at hall
    | _ => cases h

/-- The answer names these resources as the actions of a flow. -/
def Exchange.Lists (flowId : Json) (resources : List Json) (e : Exchange) : Prop :=
  e.request.ListsActions flowId ∧ ∃ document, e.document? = some document ∧
    (document.member "data").orNone = .arr resources

/-! ## One page -/

/-- A request for a template, or one that gives a template this page. -/
def Request.Places (html : Json) (r : Request) : Prop :=
  r.FetchesTemplate ∨ r.WritesTemplate ∧ r.html = html

theorem Request.Places.not_fetchesMessages {html : Json} {r : Request} (h : r.Places html)
    (actionId : Json) : ¬ r.FetchesMessages actionId := by
  rintro ⟨hmethod, hpath⟩
  rcases h with ⟨-, id, hid⟩ | ⟨⟨hpost, -⟩ | ⟨hpatch, -⟩, -⟩
  · have hchars := congrArg String.toList (hpath.symm.trans hid)
    simp only [String.toList_append] at hchars
    exact absurd hchars (by simp)
  · exact absurd (hmethod.symm.trans hpost) (by decide)
  · exact absurd (hmethod.symm.trans hpatch) (by decide)

/-- What is asked for one page: the messages of the remote action, perhaps again and again, and then
no messages any more. -/
def Serves (remoteId html : Json) (x : List Exchange) : Prop :=
  ∃ fetches rest, x = fetches ++ rest ∧ fetches ≠ [] ∧
    (∀ e ∈ fetches, e.request.FetchesMessages remoteId) ∧
    ∀ e ∈ rest, e.request.Places html ∧ ∀ id, ¬ e.request.FetchesMessages id

/-- Some template was given the page. -/
def Stored (html : Json) (x : List Exchange) : Prop :=
  ∃ e ∈ x, e.request.WritesTemplate ∧ e.request.html = html ∧ e.reply.isSuccess = true

theorem Stored.append {html : Json} {x y : List Exchange} (h : Stored html x ∨ Stored html y) :
    Stored html (x ++ y) := by
  rcases h with ⟨e, he, h⟩ | ⟨e, he, h⟩
  · exact ⟨e, List.mem_append_left y he, h⟩
  · exact ⟨e, List.mem_append_right x he, h⟩

/-- A call that gives a template the page, if it succeeds. -/
theorem Asked.stored {α : Type} {html : Json} {x : List Exchange} {a : α}
    (h : Asked (fun r => r.WritesTemplate ∧ r.html = html) (fun e _ => e.reply.isSuccess = true) x
      (.ok a)) : Stored html x := by
  obtain ⟨before, e, rfl, -, ⟨hwrites, hhtml⟩, hsuccess⟩ := h
  exact ⟨e, by simp, hwrites, hhtml, hsuccess⟩

namespace Creator

variable (k : Creator)

/-- What is asked for a page once the messages are there, and that the page is stored or a warning
is left. -/
def Placed (html : Json) (x : List Exchange) (r : Except Failure (Bool × List String)) : Prop :=
  (∀ e ∈ x, e.request.Places html) ∧ ∀ outcome, r = .ok outcome → Stored html x ∨ outcome.2 ≠ []

variable {html : Json}

theorem Placed.after {x y : List Exchange} {r : Except Failure (Bool × List String)}
    (h : Placed html y r) (hx : ∀ e ∈ x, e.request.Places html) : Placed html (x ++ y) r := by
  refine ⟨List.forall_mem_append.mpr ⟨hx, h.1⟩, fun outcome hr => ?_⟩
  exact (h.2 outcome hr).imp_left fun hy => .append (.inr hy)

theorem yields_update (name : String) (id editor : Json) :
    (applyOne.update k name html id editor).Yields fun x r =>
      (∀ e ∈ x, e.request.Places html) ∧ (r = .ok true → Stored html x) := by
  rw [applyOne.update]
  refine Task.Ensures.result_bind (ensures_call (k.client.ensures_updateTemplate id html) _ _) ?_
  intro x r hx
  have hplaces : ∀ e ∈ x ++ [], e.request.Places html := by
    rw [List.append_nil]
    exact fun e he => .inr (hx.forall_mem e he)
  cases r with
  | error f =>
    dsimp only
    split
    · refine .quiet_bind fun _ => .pure fun _ => ⟨hplaces, ?_⟩
      rintro ⟨⟩
    · refine .throw fun _ => ⟨hplaces, ?_⟩
      rintro ⟨⟩
  | ok answer =>
    refine .quiet_bind fun _ => .pure fun _ => ⟨hplaces, fun _ => ?_⟩
    rw [List.append_nil]
    exact hx.stored

theorem yields_createApart (name : Json) (label : String) (warnings : Json → List String) :
    (call (k.client.createTemplate name html) label 3 >>= fun created =>
      Task.ofExcept (createdId created) >>= fun id => pure (true, warnings id)).Yields
        (Placed html) := by
  refine Task.Yields.bind (ensures_call (k.client.ensures_createTemplate name html) _ _).yields
    ?_ ?_
  · intro x created hx
    refine .ofExcept_bind (fun e he => (Failure.accident_of_get_get he).1) fun id _ => .pure ?_
    rw [List.append_nil]
    exact ⟨fun e he => .inr (hx.forall_mem e he), fun _ _ => .inl hx.stored⟩
  · intro x e _ hx
    refine ⟨fun e he => .inr (hx.forall_mem e he), ?_⟩
    rintro outcome ⟨⟩

/-- What is asked for a page in all, and that the page is stored or a warning is left. -/
def Seen (remoteId html : Json) (x : List Exchange) (r : Except Failure (Bool × List String)) :
    Prop :=
  Serves remoteId html x ∧ ∀ outcome, r = .ok outcome → Stored html x ∨ outcome.2 ≠ []

theorem yields_applyOne (name : String) (remoteId html : Json) :
    (k.applyOne name remoteId html).Yields (Seen remoteId html) := by
  rw [applyOne]
  refine Task.Yields.bind (ensures_call (k.client.ensures_flowActionMessages remoteId) _ _).yields
    ?_ ?_
  · intro fetches messages hfetches
    have hseen : ∀ {x r}, Placed html x r → Seen remoteId html (fetches ++ x) r := by
      intro x r hx
      refine ⟨⟨fetches, x, rfl, hfetches.ne_nil (.ok _), hfetches.forall_mem, ?_⟩, ?_⟩
      · exact fun e he => ⟨hx.1 e he, (hx.1 e he).not_fetchesMessages⟩
      intro outcome hr
      exact (hx.2 outcome hr).imp_left fun hstored => .append (.inr hstored)
    refine Task.Yields.mono (P := Placed html) ?_ fun x r _ => hseen
    refine .ofExcept_bind (unforeseen_firstOf messages) fun first _ => ?_
    change Task.Yields (if (!(first.member "id").given) = true then _ else _) _
    split
    · refine .pure ⟨by simp, ?_⟩
      rintro _ ⟨rfl⟩
      exact .inr (by simp)
    · refine .bind (k.client.ensures_templateAt _ _).yields ?_ ?_
      · intro x template hx
        replace hx : ∀ e ∈ x, e.request.Places html := fun e he => .inl (hx e he)
        refine Task.Yields.mono (P := Placed html) ?_ fun y r _ hy => hy.after hx
        refine .ofExcept_bind (fun e he => (Failure.accident_of_get he).1) fun data _ => ?_
        refine .ofExcept_bind (fun e he => (Failure.accident_of_get he).1) fun id _ => ?_
        refine .ofExcept_bind (fun e he => (Failure.accident_of_get_get he).1) fun editor _ => ?_
        split
        · refine .bind (k.yields_update name id _) ?_ ?_
          · rintro y updated ⟨hy, hstored⟩
            dsimp only
            split
            · rename_i hupdated
              refine .pure ⟨by simpa using hy, fun outcome _ => .inl (.append (.inl ?_))⟩
              exact hstored (congrArg Except.ok hupdated)
            · exact Task.Yields.mono (k.yields_createApart _ _ _) fun z r _ hz => hz.after hy
          · rintro y e - ⟨hy, -⟩
            refine ⟨hy, ?_⟩
            rintro outcome ⟨⟩
        · exact k.yields_createApart _ _ _
      · intro x e _ hx
        refine ⟨fun e he => .inl (hx e he), ?_⟩
        rintro outcome ⟨⟩
  · intro x e he hx
    refine ⟨⟨x, [], by simp, hx.ne_nil (.error he), hx.forall_mem, by simp⟩, ?_⟩
    rintro outcome ⟨⟩

/-! ## All pages -/

/-- The emails to see to: those with a page, where the remote action has an id. -/
def due (pages : Members) (pairs : List (String × Json)) : List (String × Json) :=
  pairs.filter fun p => !(pages.value p.1).isNull && (p.2.member "id").given

/-- One segment for each email that is seen to, in order. -/
def InOrder (pages : Members) (pairs : List (String × Json)) (x : List Exchange) : Prop :=
  ∃ segments, x = segments.flatten ∧
    List.Forall₂ (fun p segment => Serves (p.2.member "id") (pages.value p.1) segment)
      (due pages pairs) segments

/-- What is asked for all pages, and that each page is stored or a warning is left. -/
def Delivered (pages : Members) (pairs : List (String × Json)) (x : List Exchange)
    (outcome : Nat × List String) : Prop :=
  InOrder pages pairs x ∧
    ∀ p ∈ pairs, pages.value p.1 ≠ .null → Stored (pages.value p.1) x ∨ outcome.2 ≠ []

section

variable {pages : Members} {pair : String × Json} {rest : List (String × Json)}
  {x y : List Exchange} {outcome : Nat × List String}

theorem Delivered.skip (h : Delivered pages rest x outcome) {applied : Nat}
    {warnings : List String}
    (hpair : ((!(pages.value pair.1).isNull) && (pair.2.member "id").given) = false)
    (hpage : pages.value pair.1 ≠ .null → warnings ≠ []) (hwarnings : outcome.2 <:+ warnings) :
    Delivered pages (pair :: rest) x (applied, warnings) := by
  obtain ⟨⟨segments, rfl, hsegments⟩, hstored⟩ := h
  refine ⟨⟨segments, rfl, ?_⟩, List.forall_mem_cons.mpr ⟨fun hne => .inr (hpage hne), ?_⟩⟩
  · rw [due, List.filter_cons_of_neg (by rw [hpair]; decide)]
    exact hsegments
  · intro p hp hne
    refine (hstored p hp hne).imp_right fun hne hnil => hne ?_
    exact List.eq_nil_of_suffix_nil (hnil ▸ hwarnings)

theorem Delivered.serve (h : Delivered pages rest y outcome) {applied : Nat}
    {warnings : List String} (hpage : pages.value pair.1 ≠ .null)
    (hid : (pair.2.member "id").given = true)
    (hserves : Serves (pair.2.member "id") (pages.value pair.1) x)
    (hstored : Stored (pages.value pair.1) x ∨ warnings ≠ []) :
    Delivered pages (pair :: rest) (x ++ y) (applied, warnings ++ outcome.2) := by
  obtain ⟨⟨segments, rfl, hsegments⟩, hrest⟩ := h
  have hnull : (pages.value pair.1).isNull = false := by
    rwa [Bool.eq_false_iff, ne_eq, Json.isNull_iff]
  refine ⟨⟨x :: segments, rfl, ?_⟩, List.forall_mem_cons.mpr ⟨fun _ => ?_, ?_⟩⟩
  · rw [due, List.filter_cons_of_pos (by rw [hnull, hid]; decide)]
    exact .cons hserves hsegments
  · rcases hstored with hstored | hne
    · exact .inl (.append (.inl hstored))
    · exact .inr (by simp [hne])
  · intro p hp hne
    rcases hrest p hp hne with hstored | hne
    · exact .inl (.append (.inr hstored))
    · exact .inr (by simp [hne])

end

theorem ensures_pause_bind {α : Type} {f : Unit → Work α}
    {P : List Exchange → Except Failure α → Prop} (hf : (f ()).Ensures P) :
    (k.pause >>= f).Ensures P := by
  rw [pause]
  split
  · exact .quiet_bind fun _ => hf
  · exact hf

theorem yields_pause_bind {α : Type} {f : Unit → Work α}
    {P : List Exchange → Except Failure α → Prop} (hf : (f ()).Yields P) :
    (k.pause >>= f).Yields P :=
  k.ensures_pause_bind hf

theorem yields_giveUp (name : String) (f : Failure) :
    (applyEach.giveUp name f).Yields fun x r =>
      f.foreseen = true ∧ x = [] ∧ ∃ warning, r = .ok (false, [warning]) := by
  rw [applyEach.giveUp]
  split
  · rename_i h
    exact .accident (by simpa using h)
  · rename_i h
    exact .quiet_bind fun _ => .pure ⟨by simpa using h, rfl, _, rfl⟩

/-- What is asked for the pages, one after the other, and what it comes to, where `One` says that of
a single page. -/
inductive Applied
    (One : Json → Json → List Exchange → Except Failure (Bool × List String) → Prop)
    (pages : Members) : List (Action × Json) → List Exchange → Nat × List String → Prop where
  | nil : Applied One pages [] [] (0, [])
  | absent {pair : Action × Json} {rest : List (Action × Json)} {x : List Exchange}
      {outcome : Nat × List String} (hpage : pages.value pair.1.id = .null)
      (h : Applied One pages rest x outcome) : Applied One pages (pair :: rest) x outcome
  | unidentified {pair : Action × Json} {rest : List (Action × Json)} {x : List Exchange}
      {outcome : Nat × List String} (hid : (pair.2.member "id").given = false) (warning : String)
      (h : Applied One pages rest x outcome) :
      Applied One pages (pair :: rest) x (outcome.1, warning :: outcome.2)
  | served {pair : Action × Json} {rest : List (Action × Json)} {x y : List Exchange}
      {here : Bool} {warnings : List String} {outcome : Nat × List String}
      (hpage : pages.value pair.1.id ≠ .null) (hid : (pair.2.member "id").given = true)
      (hone : One (pair.2.member "id") (pages.value pair.1.id) x (.ok (here, warnings)))
      (h : Applied One pages rest y outcome) :
      Applied One pages (pair :: rest) (x ++ y)
        ((if here then 1 else 0) + outcome.1, warnings ++ outcome.2)
  | failed {pair : Action × Json} {rest : List (Action × Json)} {x y : List Exchange}
      {e : Failure} {outcome : Nat × List String}
      (hpage : pages.value pair.1.id ≠ .null) (hid : (pair.2.member "id").given = true)
      (hone : One (pair.2.member "id") (pages.value pair.1.id) x (.error e)) (warning : String)
      (h : Applied One pages rest y outcome) :
      Applied One pages (pair :: rest) (x ++ y) (0 + outcome.1, [warning] ++ outcome.2)

section

variable {One : Json → Json → List Exchange → Except Failure (Bool × List String) → Prop}
  {pages : Members} {rest : List (Action × Json)}

/-- After a page come the pause and the other pages. -/
theorem yields_others {P : List Exchange → Except Failure (Nat × List String) → Prop}
    (hrest : (k.applyEach pages rest).Yields fun y r =>
      ∃ outcome, r = .ok outcome ∧ Applied One pages rest y outcome)
    (here : Nat) (warnings : List String)
    (hP : ∀ y outcome, Applied One pages rest y outcome →
      P y (.ok (here + outcome.1, warnings ++ outcome.2))) :
    (k.pause >>= fun _ => k.applyEach pages rest >>= fun more =>
      pure (here + more.1, warnings ++ more.2)).Yields P := by
  refine k.yields_pause_bind (hrest.bind ?_ ?_)
  · rintro y _ ⟨outcome, ⟨rfl⟩, h⟩
    refine .pure ?_
    rw [List.append_nil]
    exact hP y _ h
  · rintro y e - ⟨outcome, ⟨⟩, -⟩

theorem yields_applyEach
    (hone : ∀ name remoteId html, (k.applyOne name remoteId html).Yields (One remoteId html))
    (pages : Members) (pairs : List (Action × Json)) :
    (k.applyEach pages pairs).Yields fun x r =>
      ∃ outcome, r = .ok outcome ∧ Applied One pages pairs x outcome := by
  induction pairs with
  | nil =>
    rw [applyEach]
    exact .pure ⟨_, rfl, .nil⟩
  | cons pair rest ih =>
    rw [applyEach]
    dsimp only
    split
    · rename_i hnull
      refine ih.mono ?_
      rintro x r - ⟨outcome, rfl, h⟩
      exact ⟨outcome, rfl, h.absent (Json.isNull_iff.mp hnull)⟩
    · rename_i hnull
      have hpage : pages.value pair.1.id ≠ .null := fun h => hnull (Json.isNull_iff.mpr h)
      refine .ofExcept_bind (fun e he => (Failure.accident_of_get he).1) fun remoteId hremote => ?_
      obtain ⟨-, rfl⟩ := Json.get_eq_ok_iff.mp hremote
      cases hid : (pair.2.member "id").given with
      | false =>
        refine ih.bind ?_ ?_
        · rintro x _ ⟨outcome, ⟨rfl⟩, h⟩
          refine .pure ⟨_, rfl, ?_⟩
          rw [List.append_nil]
          exact h.unidentified hid _
        · rintro x e - ⟨outcome, ⟨⟩, -⟩
      | true =>
        refine (hone _ _ _).result_bind ?_ ?_ ?_
        · intro x outcome hx
          exact k.yields_others ih _ _ fun y more h => ⟨_, rfl, h.served hpage hid hx⟩
        · intro x e _ hx
          refine (yields_giveUp _ e).bind ?_ ?_
          · rintro _ _ ⟨-, rfl, warning, ⟨rfl⟩⟩
            exact k.yields_others ih _ _ fun y more h => ⟨_, rfl, h.failed hpage hid hx warning⟩
          · rintro _ _ - ⟨-, -, warning, ⟨⟩⟩
        · intro e he
          refine (yields_giveUp _ e).bind ?_ ?_
          · rintro _ _ ⟨hforeseen, -⟩
            rw [he] at hforeseen
            cases hforeseen
          · rintro _ _ - ⟨-, -, warning, ⟨⟩⟩

end

theorem Applied.delivered {pages : Members} {pairs : List (Action × Json)} {x : List Exchange}
    {outcome : Nat × List String} (h : Applied Seen pages pairs x outcome) :
    Delivered pages (pairs.map fun p => (p.1.id, p.2)) x outcome := by
  induction h with
  | nil => exact ⟨⟨[], rfl, .nil⟩, by simp⟩
  | absent hpage _ ih =>
    refine ih.skip ?_ (fun hne => absurd hpage hne) (List.suffix_refl _)
    simp [Json.isNull_iff.mpr hpage]
  | unidentified hid _ _ ih =>
    exact ih.skip (by simp [hid]) (fun _ => List.cons_ne_nil _ _) (List.suffix_cons _ _)
  | served hpage hid hone _ ih => exact ih.serve hpage hid hone.1 (hone.2 _ rfl)
  | failed hpage hid hone warning _ ih =>
    exact ih.serve hpage hid hone.1 (.inr (List.cons_ne_nil warning []))

/-! ## The content pass and the payload -/

end Creator

/-- The ids of the emails among actions, in order. -/
def emailIds (actions : List Action) : List String :=
  (actions.filter fun a => a.typeName == "send-email").map Action.id

/-- The temporary ids of the emails of a payload, in order. -/
def Payload.Creation.emails (c : Payload.Creation) : List String :=
  c.actions.filterMap fun action =>
    match action.member "type", action.member "temporary_id" with
    | .str "send-email", .str id => some id
    | _, _ => none

theorem Payload.Creation.Holds.emails_eq {c : Payload.Creation} {f : Flow} {ordered : List Action}
    {compiled : List Payload.Compiled} (h : c.Holds f ordered compiled)
    (hcompiled : compiled.map Payload.Compiled.action = ordered) : c.emails = emailIds ordered := by
  subst hcompiled
  rw [emails, h.actions_eq, emailIds]
  clear h
  induction compiled with
  | nil => rfl
  | cons a rest ih =>
    rw [List.map_cons, List.map_cons, List.filterMap_cons, List.filter_cons, ih]
    have htype : a.toJson.member "type" = .str a.action.typeName := rfl
    have hid : a.toJson.member "temporary_id" = .str a.action.id := rfl
    rw [htype, hid]
    by_cases hemail : a.action.typeName = "send-email"
    · simp [hemail]
    · simp [hemail]

namespace Creator

variable (k : Creator)

/-- What the content pass asks for and comes to: either the actions of the flow cannot be listed, or
they are, and all pages are seen to. -/
def Passed (flowId : Json) (pages : Members) (emails : List String) (x : List Exchange)
    (r : Except Failure (Nat × List String)) : Prop :=
  (∃ e, r = .error e ∧ ∀ y ∈ x, y.request.ListsActions flowId) ∨
    ∃ outcome before listing resources rest, r = .ok outcome ∧ x = before ++ listing :: rest ∧
      (∀ y ∈ before, y.request.ListsActions flowId) ∧ listing.Lists flowId resources ∧
      Delivered pages (emails.zip (resources.filter Json.sendsEmail)) rest outcome

/-- The listing of the actions, over and over if need be, and then the pages, where `One` says what
becomes of a single page. -/
inductive PassedWith
    (One : Json → Json → List Exchange → Except Failure (Bool × List String) → Prop)
    (flowId : Json) (f : Flow) (pages : Members) :
    List Exchange → Except Failure (Nat × List String) → Prop where
  | unlisted {x : List Exchange} (e : Failure) (h : ∀ y ∈ x, y.request.ListsActions flowId) :
    PassedWith One flowId f pages x (.error e)
  | applied {before rest : List Exchange} {listing : Exchange} {ordered : List Action}
      {resources : List Json} {pairs : List (Action × Json)} {outcome : Nat × List String}
      (hbefore : ∀ y ∈ before, y.request.ListsActions flowId)
      (hlists : listing.Lists flowId resources) (htraverse : f.traverse = .ok ordered)
      (hpairs : correlate ordered resources "send-email" isEmailResource = .ok pairs)
      (h : Applied One pages pairs rest outcome) :
    PassedWith One flowId f pages (before ++ listing :: rest) (.ok outcome)

theorem passedWith_applyContent
    {One : Json → Json → List Exchange → Except Failure (Bool × List String) → Prop}
    (hone : ∀ name remoteId html, (k.applyOne name remoteId html).Yields (One remoteId html))
    (flowId : Json) (f : Flow) (pages : Members) :
    (k.applyContent flowId f pages).Yields (PassedWith One flowId f pages) := by
  have hpass : (call (k.client.flowActions flowId) "Fetch flow actions" 3 >>= fun remote => do
      let ordered ← Task.ofExcept f.traverse
      let resources ← Task.ofExcept remote.iterate
      let pairs ← Task.ofExcept (correlate ordered resources "send-email" isEmailResource)
      k.applyEach pages pairs).Yields (PassedWith One flowId f pages) := by
    refine Task.Yields.bind (ensures_call (k.client.ensures_flowActions flowId) _ _).yields ?_ ?_
    · rintro _ remote ⟨before, listing, rfl, hbefore, hlists, document, hdocument, hdata⟩
      refine Task.Ensures.ofExcept_bind (fun ordered hordered => ?_) fun e _ _ => ?_
      · refine Task.Yields.ofExcept_bind (Json.unforeseen_iterate remote)
          fun resources hresources => ?_
        refine .ofExcept_bind Json.unforeseen_correlate fun pairs hpairs => ?_
        refine (k.yields_applyEach hone pages pairs).mono ?_
        rintro rest r - ⟨outcome, rfl, happlied⟩
        rw [List.append_assoc]
        refine .applied hbefore ⟨hlists, document, hdocument, ?_⟩ hordered hpairs happlied
        rw [← hdata] at hresources
        exact Json.orNone_eq_arr hresources (Json.correlate_eq_ok_iff.mp ⟨pairs, hpairs⟩)
      · refine .unlisted e ?_
        simpa [or_imp, forall_and] using ⟨hbefore, hlists⟩
    · exact fun x e _ hx => .unlisted e hx.forall_mem
  rw [applyContent]
  split
  · exact .quiet_bind fun _ => .quiet_bind fun _ => hpass
  · exact hpass

theorem PassedWith.passed {flowId : Json} {f : Flow} {pages : Members} {x : List Exchange}
    {r : Except Failure (Nat × List String)} {ordered : List Action}
    (h : PassedWith Seen flowId f pages x r) (hf : f.traverse = .ok ordered) :
    Passed flowId pages (emailIds ordered) x r := by
  cases h with
  | unlisted e h => exact .inl ⟨e, rfl, h⟩
  | @applied before rest listing ordered' resources pairs outcome hbefore hlists htraverse hpairs
      h =>
    obtain rfl : ordered = ordered' := Except.ok.inj (hf.symm.trans htraverse)
    refine .inr ⟨outcome, before, listing, resources, rest, rfl, rfl, hbefore, hlists, ?_⟩
    rw [emailIds, List.zip_map_left, ← Json.correlate_eq hpairs]
    exact h.delivered

theorem yields_applyContent {f : Flow} {ordered : List Action} (hf : f.traverse = .ok ordered)
    (flowId : Json) (pages : Members) :
    (k.applyContent flowId f pages).Yields (Passed flowId pages (emailIds ordered)) :=
  (k.passedWith_applyContent k.yields_applyOne flowId f pages).mono fun _ _ _ h => h.passed hf

/-- The emails of a payload and the email actions that the service lists are paired in order, and
each page goes into the template of its own email: unless the actions cannot be listed at all, what
is asked for afterwards is one segment for each pair with a page. -/
theorem applies_in_order {f : Flow} {service : Option (NameService σ)} {sender : Sender}
    {templates : TemplateIds} {s s' : σ} {u t : List (Event World)} {creation : Payload.Creation}
    {flowId : Json} {pages : Members} {m m' : Memory} {r : Except Failure (Nat × List String)}
    (hcompile : Program.Reaches ((Payload.ofFlow f service sender templates).start s) u
      (.done (.ok creation, s')))
    (h : Program.Reaches ((k.applyContent flowId f pages).start m) t (.done (r, m')))
    (hr : ∀ e, r = .error e → e.foreseen = true) :
    (∃ e, r = .error e ∧ ∀ x ∈ exchanges t, x.request.ListsActions flowId) ∨
      ∃ outcome before listing resources segments, r = .ok outcome ∧
        exchanges t = before ++ listing :: segments.flatten ∧
        (∀ x ∈ before, x.request.ListsActions flowId) ∧ listing.Lists flowId resources ∧
        List.Forall₂ (fun p segment => Serves (p.2.member "id") (pages.value p.1) segment)
          (due pages (creation.emails.zip (resources.filter Json.sendsEmail))) segments := by
  obtain ⟨ordered, compiled, htraverse, hcompiled, hcreation⟩ :=
    (Payload.ensures_ofFlow f service sender templates).reaches hcompile creation rfl
  rw [hcreation.emails_eq (Payload.map_action_of_mapM hcompiled)]
  refine ((k.yields_applyContent htraverse flowId pages).reaches h hr).imp_right ?_
  rintro ⟨outcome, before, listing, resources, _, rfl, hx, hbefore, hlists, hdelivered, -⟩
  obtain ⟨segments, rfl, hsegments⟩ := hdelivered
  exact ⟨outcome, before, listing, resources, segments, rfl, hx, hbefore, hlists, hsegments⟩

end Creator

/-- An outside where the service lists two emails and finds a template for the second one. -/
def World.stocked : (c : World.Call) → World.Answer c
  | .send r =>
    Reply.answer 200 (
      if r.method = "PATCH" then ""
      else if r.path = "/flows/F1/flow-actions/" then
        "\x7b\"data\":[" ++
          "\x7b\"id\":\"R1\",\"attributes\":\x7b\"action_type\":\"SEND_EMAIL\"\x7d\x7d," ++
          "\x7b\"id\":\"R2\",\"attributes\":\x7b\"action_type\":\"email\"\x7d\x7d]\x7d"
      else if r.path = "/flow-actions/R2/flow-messages/" then
        "\x7b\"data\":[\x7b\"id\":\"M2\"\x7d]\x7d"
      else "\x7b\"data\":\x7b\"id\":\"T2\"\x7d\x7d")
  | c => World.smooth c

/-- The second email of a flow gets its page, while the first one has none. -/
theorem Creator.fork_applied_in_order :
    ∃ u creation t m' before listing resources segments,
      Program.Reaches ((Payload.ofFlow .fork none ⟨.null, .null⟩ [] :
        Task Unit Payload.Creation).start ()) u (.done (.ok creation, ())) ∧
      Program.Reaches ((Creator.nearby.applyContent (.str "F1") .fork
        [("second", .str "<p>2</p>")]).start .empty) t (.done (.ok (1, []), m')) ∧
      exchanges t = before ++ listing :: segments.flatten ∧ listing.Lists (.str "F1") resources ∧
      List.Forall₂ (fun p segment =>
          Serves (p.2.member "id") (Members.value [("second", .str "<p>2</p>")] p.1) segment)
        (Creator.due [("second", .str "<p>2</p>")]
          (creation.emails.zip (resources.filter Json.sendsEmail))) segments := by
  have hcompiled : ∃ creation, (Program.record World.smooth 8
      ((Payload.ofFlow .fork none ⟨.null, .null⟩ [] :
        Task Unit Payload.Creation).start ())).2.result? = some (.ok creation, ()) := by
    simp only [Payload.ofFlow, Flow.traverse_fork]
    exact ⟨_, rfl⟩
  obtain ⟨creation, hcompiled⟩ := hcompiled
  have hcompile := Program.reaches_of_record hcompiled
  have hlast : ((Program.record World.stocked 40 ((Creator.nearby.applyContent (.str "F1") .fork
      [("second", .str "<p>2</p>")]).start .empty)).2.result?.bind fun x => x.1.toOption) =
        some (1, []) := by
    simp only [Creator.applyContent, Flow.traverse_fork, Creator.nearby, Creator.call,
      Client.flowActions, Client.get, Client.send, Client.request]
    decide +kernel
  obtain ⟨⟨_ | outcome, m'⟩, hlast, houtcome⟩ := Option.bind_eq_some_iff.mp hlast
  · cases houtcome
  · cases houtcome
    have hrun := Program.reaches_of_record hlast
    rcases Creator.nearby.applies_in_order hcompile hrun (by rintro e ⟨⟩) with
      ⟨e, ⟨⟩, -⟩ | ⟨outcome, before, listing, resources, segments, -, hx, -, hlists, hsegments⟩
    exact ⟨_, creation, _, m', before, listing, resources, segments, hcompile, hrun, hx, hlists,
      hsegments⟩

end MarketingFlow
