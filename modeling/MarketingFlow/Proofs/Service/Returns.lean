import MarketingFlow.Proofs.Service.Delivery

/-!
# Calls that return

Whether a call of the service returns is up to the reply to its request: that has to be a success
with a document of the kind that the call asks for. Of all attempts at a call, only the last one can
have been answered so. The pages that the content pass counts as applied are then the calls that
return from writing a template.
-/

namespace MarketingFlow

open Outcome

variable {σ α : Type}

/-- What the call that made the exchange returns, if it returns. -/
def Exchange.returned? (e : Exchange) : Option Json :=
  match Client.resultOf (e.request.method ++ " " ++ e.request.path) e.request e.reply with
  | .ok document =>
    if fitsCall e.request.method e.request.path document then some document else none
  | .error _ => none

/-- What a call comes to with all its attempts: it returns what its last request was answered with,
and no earlier attempt returned anything. -/
def Returning (x : List Exchange) : Except Failure Json → Prop
  | .ok document => ∃ before e, x = before ++ [e] ∧ (∀ b ∈ before, b.returned? = none) ∧
      e.returned? = some document
  | .error _ => ∀ e ∈ x, e.returned? = none

theorem Creator.returning_call {t : Creator.Work Json} (h : t.Ensures Returning) (label : String)
    (attempts : Int) : (Creator.call t label attempts).Ensures Returning := by
  refine Task.Ensures.retry (A := fun x => ∀ e ∈ x, e.returned? = none) h (by simp) ?_ ?_ ?_ ?_
  · rintro x _ document hx ⟨before, e, rfl, hbefore, he⟩
    have hall := List.forall_mem_append.mpr ⟨hx, hbefore⟩
    exact ⟨x ++ before, e, (List.append_assoc ..).symm, hall, he⟩
  · exact fun x y e hx hy => List.forall_mem_append.mpr ⟨hx, hy⟩
  · exact fun x y e note hx hy => List.forall_mem_append.mpr ⟨hx, hy⟩
  · exact fun x y e e' n hx hy _ => List.forall_mem_append.mpr ⟨hx, hy⟩

/-- Where reading fails that succeeds on a certain kind of document, the document is not of it. -/
theorem eq_false_of_error {β : Type} {r : Except Failure β} {e : Failure} {fits : Bool}
    (he : r = .error e) (h : fits = true → ∃ b, r = .ok b) : fits = false := by
  refine Bool.eq_false_iff.mpr fun hfits => ?_
  obtain ⟨b, hb⟩ := h hfits
  rw [he] at hb
  cases hb

namespace Client

variable (c : Client) {method path : String} {query : Option Query.Pairs}
  {revision : Option String} {content : Content}

/-- Nothing is sent, or one request, and its reply says what comes of it. -/
theorem ensures_send_resultOf :
    (c.send method path query revision content : Task σ Json).Ensures fun x r =>
      (x = [] ∧ ∃ e, r = .error e) ∨ ∃ e, x = [e] ∧ e.request.method = method ∧
        e.request.path = path ∧ r = resultOf (method ++ " " ++ path) e.request e.reply := by
  intro x
  refine holds_send discreet_recorder.toAttentive trivial ?_ ?_
  · exact fun e _ => ⟨[], rfl, .inl ⟨rfl, e, rfl⟩⟩
  · intro r reply hr
    obtain ⟨hmethod, hpath, -⟩ := request_eq_ok hr
    refine ⟨trivial, [⟨r, reply⟩], ?_, .inr ⟨⟨r, reply⟩, rfl, hmethod, hpath, rfl⟩⟩
    change x ++ [] ++ [_] = _
    rw [List.append_nil]

/-- A call that reads what it needs from the answer, and can do so if and only if the document is of
the kind that it asks for. -/
theorem returning_send_bind {f : Json → Task σ Json}
    (hf : ∀ document, (f document).Ensures fun y r => y = [] ∧
      match r with
      | .ok v => v = document ∧ fitsCall method path document = true
      | .error _ => fitsCall method path document = false) :
    (c.send method path query revision content >>= f).Ensures Returning := by
  refine c.ensures_send_resultOf.bind ?_ ?_
  · rintro _ document (⟨-, e, ⟨⟩⟩ | ⟨e, rfl, rfl, rfl, hresult⟩)
    refine (hf document).mono ?_
    rintro _ (failure | v) ⟨rfl, hr⟩
    · intro e' he'
      obtain rfl : e' = e := by simpa using he'
      rw [Exchange.returned?, ← hresult]
      exact if_neg (by simp [hr])
    · obtain ⟨rfl, hfits⟩ := hr
      refine ⟨[], e, rfl, by simp, ?_⟩
      rw [Exchange.returned?, ← hresult]
      exact if_pos hfits
  · rintro _ failure (⟨rfl, -⟩ | ⟨e, rfl, rfl, rfl, hresult⟩)
    · simp [Returning]
    · intro e' he'
      obtain rfl : e' = e := by simpa using he'
      rw [Exchange.returned?, ← hresult]

theorem returning_createTemplate (name html : Json) :
    (c.createTemplate name html : Task σ Json).Ensures Returning := by
  rw [createTemplate]
  refine .quiet_bind fun _ => c.returning_send_bind fun document => ?_
  have hfits : fitsCall "POST" "/templates/" document = document.holdsRecord := by
    rw [fitsCall, if_neg (by decide), if_pos rfl, if_neg (by decide)]
  rw [hfits]
  refine .ofExcept_bind (fun id hid => .quiet_bind fun _ => .pure ⟨rfl, rfl, ?_⟩) fun e he => ?_
  · obtain ⟨hobject, hdata, -⟩ := Json.get_get_eq_ok_iff.mp hid
    rw [Json.holdsRecord, hobject, hdata, Bool.true_and]
  · exact ⟨rfl, eq_false_of_error he Json.get_id_of_holdsRecord⟩

theorem returning_updateTemplate (id html name : Json) :
    (c.updateTemplate id html name : Task σ Json).Ensures Returning := by
  rw [updateTemplate]
  refine .quiet_bind fun _ => c.ensures_send_resultOf.mono ?_
  rintro _ r (⟨rfl, e, rfl⟩ | ⟨e, rfl, hmethod, hpath, rfl⟩)
  · simp [Returning]
  · have hreturned : e.returned? =
        (resultOf ("PATCH" ++ " " ++ ("/templates/" ++ id.text ++ "/")) e.request
          e.reply).toOption := by
      rw [Exchange.returned?, hmethod, hpath]
      cases resultOf ("PATCH" ++ " " ++ ("/templates/" ++ id.text ++ "/")) e.request e.reply with
      | ok document => exact if_pos rfl
      | error failure => rfl
    cases hresult : resultOf ("PATCH" ++ " " ++ ("/templates/" ++ id.text ++ "/")) e.request
        e.reply with
    | ok document =>
      refine ⟨[], e, rfl, by simp, ?_⟩
      rw [hreturned, hresult]
      rfl
    | error failure =>
      intro e' he'
      obtain rfl : e' = e := by simpa using he'
      rw [hreturned, hresult]
      rfl

theorem returning_createFlow (payload : Json) :
    (c.createFlow payload : Task σ Json).Ensures Returning := by
  rw [createFlow]
  refine .quiet_bind fun _ => c.returning_send_bind fun document => ?_
  have hfits : fitsCall "POST" "/flows/" document = document.holdsFlow := by
    rw [fitsCall, if_neg (by decide), if_pos rfl, if_pos rfl]
  rw [hfits]
  have hholds : document.holdsFlow = true ↔ document.isObject = true ∧
      (document.member "data").orEmpty.isObject = true ∧
        ((document.member "data").orEmpty.member "attributes").isRecord = true := by
    simp [Json.holdsFlow, Json.holdsRecord, and_assoc]
  refine .ofExcept_bind (fun data hdata => ?_) fun e he => ⟨rfl, eq_false_of_error he ?_⟩
  · obtain ⟨_, hget, ⟨⟩⟩ := bind_eq_ok_iff.mp hdata
    obtain ⟨hobject, rfl⟩ := Json.get_eq_ok_iff.mp hget
    refine .ofExcept_bind (fun id _ => ?_) fun e he => ⟨rfl, eq_false_of_error he fun hflow => ?_⟩
    · refine .ofExcept_bind (fun name hname => ?_)
        fun e he => ⟨rfl, eq_false_of_error he fun hflow => ?_⟩
      · obtain ⟨hrecord, hattributes, -⟩ := Json.get_get_eq_ok_iff.mp hname
        exact .quiet_bind fun _ => .pure ⟨rfl, rfl, hholds.mpr ⟨hobject, hrecord, hattributes⟩⟩
      · obtain ⟨-, hrecord, hattributes⟩ := hholds.mp hflow
        exact ⟨_, Json.get_get_eq_ok_iff.mpr ⟨hrecord, hattributes, rfl⟩⟩
    · exact ⟨_, Json.get_eq_ok_iff.mpr ⟨(hholds.mp hflow).2.1, rfl⟩⟩
  · intro hflow
    rw [Json.get_eq_ok_iff.mpr ⟨(hholds.mp hflow).1, rfl⟩]
    exact ⟨_, rfl⟩

end Client

/-! ## Templates written -/

open scoped Classical in
/-- How many calls returned from creating a template or updating one. -/
noncomputable def templatesWritten (x : List Exchange) : Nat :=
  x.countP fun e => e.request.WritesTemplate ∧ e.returned?.isSome

theorem templatesWritten_append (x y : List Exchange) :
    templatesWritten (x ++ y) = templatesWritten x + templatesWritten y :=
  List.countP_append

@[simp] theorem templatesWritten_nil : templatesWritten [] = 0 := rfl

theorem templatesWritten_eq_zero {x : List Exchange}
    (h : ∀ e ∈ x, e.request.WritesTemplate → e.returned? = none) : templatesWritten x = 0 := by
  classical
  refine List.countP_eq_zero.mpr fun e he hcounted => ?_
  obtain ⟨hwrites, hreturned⟩ := of_decide_eq_true hcounted
  rw [h e he hwrites] at hreturned
  cases hreturned

theorem templatesWritten_of_get {x : List Exchange} (h : ∀ e ∈ x, e.request.method = "GET") :
    templatesWritten x = 0 := by
  refine templatesWritten_eq_zero fun e he hwrites => ?_
  rcases hwrites with ⟨hmethod, -⟩ | ⟨hmethod, -⟩
  · exact absurd ((h e he).symm.trans hmethod) (by decide)
  · exact absurd ((h e he).symm.trans hmethod) (by decide)

/-- As many templates were written as the result says, and none if there is no result. -/
def Counts (count : α → Nat) (x : List Exchange) : Except Failure α → Prop
  | .ok a => templatesWritten x = count a
  | .error _ => templatesWritten x = 0

theorem Returning.counts {x : List Exchange} {r : Except Failure Json} (h : Returning x r)
    (hwrites : ∀ e ∈ x, e.request.WritesTemplate) : Counts (fun _ => 1) x r := by
  cases r with
  | error f => exact templatesWritten_eq_zero fun e he _ => h e he
  | ok document =>
    obtain ⟨before, e, rfl, hbefore, he⟩ := h
    have hlast : e.request.WritesTemplate := hwrites e (by simp)
    change templatesWritten _ = 1
    rw [templatesWritten_append, templatesWritten_eq_zero fun b hb _ => hbefore b hb,
      templatesWritten, List.countP_cons_of_pos (by simp [hlast, he])]
    rfl

theorem Counts.after {count : α → Nat} {x y : List Exchange} {r : Except Failure α}
    (h : Counts count y r) (hx : templatesWritten x = 0) : Counts count (x ++ y) r := by
  cases r with
  | error e => exact (templatesWritten_append x y).trans (by rw [hx, h])
  | ok a => exact (templatesWritten_append x y).trans (by rw [hx, h, Nat.zero_add])

namespace Creator

variable (k : Creator)

theorem counts_createTemplate (name html : Json) (label : String) (attempts : Int) :
    (call (k.client.createTemplate name html) label attempts).Ensures (Counts fun _ => 1) := by
  refine ((returning_call (k.client.returning_createTemplate name html) label attempts).and
    (ensures_call (k.client.ensures_createTemplate name html) label attempts)).mono ?_
  rintro x r ⟨hreturning, hasked⟩
  exact hreturning.counts fun e he => (hasked.forall_mem e he).1

theorem counts_update (name : String) (html id editor : Json) :
    (applyOne.update k name html id editor).Ensures (Counts Bool.toNat) := by
  have hcall : (call (k.client.updateTemplate id html .null) ("Update template for \"" ++ name ++
      "\"") 3).Ensures (Counts fun _ => 1) := by
    refine ((returning_call (k.client.returning_updateTemplate id html .null) _ _).and
      (ensures_call (k.client.ensures_updateTemplate id html) _ _)).mono ?_
    rintro x r ⟨hreturning, hasked⟩
    exact hreturning.counts fun e he => (hasked.forall_mem e he).1
  rw [applyOne.update]
  refine hcall.result_bind ?_
  rintro x (f | answer) hx
  · dsimp only
    split
    · exact .quiet_bind fun _ => .pure (by rwa [List.append_nil])
    · exact .throw (by rwa [List.append_nil])
  · exact .quiet_bind fun _ => .pure (by rwa [List.append_nil])

theorem counts_createApart (name : Json) (html : Json) (label : String)
    (warnings : Json → List String) :
    (call (k.client.createTemplate name html) label 3 >>= fun created =>
      Task.ofExcept (createdId created) >>= fun id => pure (true, warnings id)).Yields
        (Counts fun outcome => outcome.1.toNat) := by
  refine Task.Yields.bind (k.counts_createTemplate name html label 3).yields ?_ ?_
  · intro x created hx
    refine .ofExcept_bind (fun e he => (Failure.accident_of_get_get he).1) fun id _ => .pure ?_
    rwa [List.append_nil]
  · exact fun x e _ hx => hx

theorem counts_applyOne (name : String) (remoteId html : Json) :
    (k.applyOne name remoteId html).Yields (Counts fun outcome => outcome.1.toNat) := by
  rw [applyOne]
  refine .bind (ensures_call (k.client.ensures_flowActionMessages remoteId) _ _).yields ?_ ?_
  · intro x messages hx
    have hnone : templatesWritten x = 0 :=
      templatesWritten_of_get fun e he => (hx.forall_mem e he).1
    refine Task.Yields.mono (P := Counts fun outcome => outcome.1.toNat) ?_
      fun y r _ hy => hy.after hnone
    refine .ofExcept_bind (unforeseen_firstOf messages) fun first _ => ?_
    change Task.Yields (if (!(first.member "id").given) = true then _ else _) _
    split
    · exact .pure rfl
    · refine .bind (k.client.ensures_templateAt _ _).yields ?_ ?_
      · intro y template hy
        have hnone : templatesWritten y = 0 := templatesWritten_of_get fun e he => (hy e he).1
        refine Task.Yields.mono (P := Counts fun outcome => outcome.1.toNat) ?_
          fun z r _ hz => hz.after hnone
        refine .ofExcept_bind (fun e he => (Failure.accident_of_get he).1) fun data _ => ?_
        refine .ofExcept_bind (fun e he => (Failure.accident_of_get he).1) fun id _ => ?_
        refine .ofExcept_bind (fun e he => (Failure.accident_of_get_get he).1) fun editor _ => ?_
        split
        · refine .bind (k.counts_update name html id _).yields ?_ ?_
          · intro z updated hz
            cases updated with
            | true => exact .pure (by rwa [List.append_nil])
            | false => exact (k.counts_createApart _ _ _ _).mono fun w r _ hw => hw.after hz
          · exact fun z e _ hz => hz
        · exact k.counts_createApart _ _ _ _
      · exact fun y e _ hy => templatesWritten_of_get fun e he => (hy e he).1
  · exact fun x e _ hx => templatesWritten_of_get fun e he => (hx.forall_mem e he).1

theorem Applied.counts {pages : Members} {pairs : List (Action × Json)} {x : List Exchange}
    {outcome : Nat × List String}
    (h : Applied (fun _ _ => Counts fun one => one.1.toNat) pages pairs x outcome) :
    templatesWritten x = outcome.1 := by
  induction h with
  | nil => rfl
  | absent _ _ ih => exact ih
  | unidentified _ _ _ ih => exact ih
  | @served _ _ x y here _ _ _ _ hone _ ih =>
    have hx : templatesWritten x = here.toNat := hone
    rw [templatesWritten_append, hx, ih]
    cases here <;> rfl
  | @failed _ _ x y _ _ _ _ hone _ _ ih =>
    have hx : templatesWritten x = 0 := hone
    rw [templatesWritten_append, hx, ih]

theorem counts_applyContent (flowId : Json) (f : Flow) (pages : Members) :
    (k.applyContent flowId f pages).Yields (Counts Prod.fst) := by
  have hnone : ∀ x : List Exchange, (∀ y ∈ x, y.request.ListsActions flowId) →
      templatesWritten x = 0 := fun x hx => templatesWritten_of_get fun e he => (hx e he).1
  refine (k.passedWith_applyContent k.counts_applyOne flowId f pages).mono fun _ _ _ h => ?_
  cases h with
  | unlisted e h => exact hnone _ h
  | @applied before rest listing _ _ _ outcome hbefore hlists _ _ h =>
    change templatesWritten (before ++ listing :: rest) = outcome.1
    rw [List.append_cons, templatesWritten_append, hnone (before ++ [listing]), Nat.zero_add]
    · exact h.counts
    · simpa [or_imp, forall_and] using ⟨hbefore, hlists.1⟩

/-- The content pass counts what it wrote, also if it could not list the actions of the flow. -/
theorem counts_pass (f : Flow) (flowId : Json) (url : Option String) (pending : Members) :
    (complete.pass k f flowId url pending).Yields fun x r => ∃ outcome, r = .ok outcome ∧
      templatesWritten x = outcome.1 := by
  rw [complete.pass]
  refine (k.counts_applyContent flowId f pending).result_bind ?_ ?_ ?_
  · exact fun x outcome hx => .pure ⟨outcome, rfl, by rwa [List.append_nil]⟩
  · intro x e he hx
    dsimp only
    rw [he]
    exact .quiet_bind fun _ => .pure ⟨_, rfl, by rwa [List.append_nil]⟩
  · intro e he
    dsimp only
    rw [he]
    exact .accident he

end Creator

end MarketingFlow
