import MarketingFlow.Proofs.Interaction.Replies
import MarketingFlow.Proofs.Service.Calls

/-!
# What comes of a request

A request that can be sent comes to what its reply stands for: the document of a success, or a
failure that is named after the status of a refusal or after what went wrong on the way. Fetching
consults the service only, so the replies settle whatever is fetched.
-/

namespace MarketingFlow

instance : World.Call.Fetches World.Call.Consults where
  log _ _ := trivial
  sleep _ := trivial
  get _ _ := trivial

namespace Client

variable {σ : Type} {c : Client} {method path target : String} {query : Option Query.Pairs}
  {revision : Option String} {content : Content} {r : Request} {reply : Reply} {v : Json}
  {f : Failure}

/-- A success with a document. -/
inductive Delivers : Reply → Json → Prop where
  | answer {status : Int} {text : String} {v : Json} (hlow : 200 ≤ status) (hhigh : status ≤ 299)
      (hv : readAnswer text = .ok v) : Delivers (.answer status text) v

/-- A refusal with a body that can be read, or a failure on the way. -/
inductive StandsFor (target : String) : Reply → Failure → Prop where
  | refusal {status : Int} {text : String} {body : Json} (h : status < 200 ∨ 299 < status)
      (hbody : readRefusal text = .ok body) : StandsFor target (.answer status text)
        (Failure.ofStatus status (target ++ " returned " ++ toString status ++
          (if (detailOf body).isEmpty then "" else ": " ++ detailOf body)) body)
  | timeout (message : String) : StandsFor target (.timeout message)
      (networkFailure (target ++ " timed out: " ++ message))
  | broken (message : String) : StandsFor target (.broken message)
      (networkFailure (target ++ " failed: " ++ message))

theorem Delivers.resultOf_eq (h : Delivers reply v) (hkind : r.url.checkKind = .ok ()) :
    resultOf target r reply = .ok v := by
  obtain ⟨hlow, hhigh, hv⟩ := h
  rw [resultOf, hkind, Outcome.ok_bind, if_pos (by simp [hlow, hhigh]), hv]

theorem StandsFor.resultOf_eq (h : StandsFor target reply f) (hkind : r.url.checkKind = .ok ()) :
    resultOf target r reply = .error f := by
  cases h with
  | refusal h hbody =>
    rw [resultOf, hkind, Outcome.ok_bind, if_neg (by simp; omega), hbody, Outcome.ok_bind]
  | timeout message => rfl
  | broken message => rfl

theorem StandsFor.remoteKind?_isSome (h : StandsFor target reply f) :
    f.remoteKind?.isSome = true := by
  cases h <;> rfl

/-- The document of a success is found by reading its text. -/
theorem exists_delivers (text : String) (q : Json → Bool)
    (h : (readAnswer text).toOption.any q = true) :
    ∃ v, Delivers (.answer 200 text) v ∧ q v = true := by
  obtain ⟨v, hv, hq⟩ := Outcome.exists_ok_of_any h
  exact ⟨v, .answer (by decide) (by decide) hv, hq⟩

/-! ## The request -/

/-- The revision is asked for in the head of a request and nowhere else. -/
theorem request_revision : c.request method path query revision content =
    (fun r => { r with revision := (revision.filter (!·.isEmpty)).getD c.revision }) <$>
      c.request method path query none content := by
  simp only [request, map_bind]
  cases query with
  | none => simp only [map_bind, map_pure]
  | some pairs => simp only [map_bind, map_pure]

theorem revision_of_request (h : c.request method path query revision content = .ok r) :
    r.revision = (revision.filter (!·.isEmpty)).getD c.revision := by
  rw [request_revision] at h
  cases hr : c.request method path query none content with
  | error e =>
    rw [hr] at h
    cases h
  | ok r' =>
    rw [hr] at h
    cases h
    rfl

theorem request_at {name : String} (hname : name ≠ "" ∨ name = c.revision)
    (h : c.request method path query none content = .ok r) :
    c.request method path query (some name) content = .ok { r with revision := name } := by
  have hrevision : ((some name).filter (!·.isEmpty)).getD c.revision = name := by
    rcases hname with hname | rfl
    · simp [Option.filter, hname]
    · cases hempty : c.revision.isEmpty <;> simp [Option.filter, hempty]
  rw [request_revision, h, hrevision]
  rfl

/-! ## The exchange -/

theorem may_send (hr : c.request method path query revision content = .ok r) (reply : Reply) :
    (c.send method path query revision content : Task σ Json).May [⟨r, reply⟩]
      (resultOf (method ++ " " ++ path) r reply) := by
  rw [send]
  refine .log_bind (.bind (x := []) (hr ▸ .ofExcept _) (.send_bind reply ?_))
  cases reply with
  | timeout message => exact .throw _
  | broken message => exact .throw _
  | unwritten f => exact .throw f
  | answer status text =>
    rw [resultOf]
    dsimp only
    cases r.url.checkKind with
    | error e => exact .bind_error (.ofExcept _)
    | ok =>
      refine .bind (x := []) (.ofExcept _) (.log_bind ?_)
      rw [Outcome.ok_bind]
      split
      · exact .ofExcept _
      · cases readRefusal text with
        | error e => exact .bind_error (.ofExcept _)
        | ok refusal => exact .bind (x := []) (.ofExcept _) (.log_bind (.throw _))

theorem Delivers.may_send (h : Delivers reply v)
    (hr : c.request method path query revision content = .ok r)
    (hkind : r.url.checkKind = .ok ()) :
    (c.send method path query revision content : Task σ Json).May [⟨r, reply⟩] (.ok v) :=
  h.resultOf_eq hkind ▸ Client.may_send hr reply

theorem StandsFor.may_send (h : StandsFor (method ++ " " ++ path) reply f)
    (hr : c.request method path query revision content = .ok r)
    (hkind : r.url.checkKind = .ok ()) :
    (c.send method path query revision content : Task σ Json).May [⟨r, reply⟩] (.error f) :=
  h.resultOf_eq hkind ▸ Client.may_send hr reply

theorem may_unsent (hr : c.request method path query revision content = .error f) :
    (c.send method path query revision content : Task σ Json).May [] (.error f) := by
  rw [send]
  exact .log_bind (.bind_error (hr ▸ .ofExcept _))

end Client

end MarketingFlow
