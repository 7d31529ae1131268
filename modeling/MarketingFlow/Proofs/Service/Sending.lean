import MarketingFlow.Proofs.Http.Kind
import MarketingFlow.Proofs.Interaction.Tasks
import MarketingFlow.Proofs.Service.Accidents

/-!
# Sending one request

A request is announced in the journal, sent, and answered: what comes of it is a function of the
reply. The address of the request is seen from the base of the client.
-/

namespace MarketingFlow.Client

variable {σ : Type} {c : Client} {method path : String} {query : Option Query.Pairs}
  {revision : Option String} {content : Content}

theorem request_eq_ok {r : Request} (h : c.request method path query revision content = .ok r) :
    r.method = method ∧ r.path = path ∧ ∃ u, Url.join c.base path = .ok u ∧
      (match query with
        | some pairs => u.withQuery pairs = .ok r.url
        | none => r.url = u) := by
  rw [request] at h
  obtain ⟨u, hu, h⟩ := Outcome.bind_eq_ok_iff.mp h
  cases query with
  | some pairs =>
    obtain ⟨v, hv, h⟩ := Outcome.bind_eq_ok_iff.mp h
    simp only [Outcome.bind_eq_ok_iff] at h
    obtain ⟨_, -, _, -, _, -, h⟩ := h
    cases h
    exact ⟨rfl, rfl, u, hu, hv⟩
  | none =>
    simp only [Outcome.bind_eq_ok_iff] at h
    obtain ⟨_, h, _, -, _, -, _, -, h'⟩ := h
    cases h
    cases h'
    exact ⟨rfl, rfl, u, hu, rfl⟩

/-- What a reply to a request comes to. -/
def resultOf (target : String) (r : Request) : Reply → Except Failure Json
  | .timeout message => .error (networkFailure (target ++ " timed out: " ++ message))
  | .broken message => .error (networkFailure (target ++ " failed: " ++ message))
  | .unwritten f => .error f
  | .answer status text => do
    r.url.checkKind
    if 200 ≤ status && status ≤ 299 then readAnswer text
    else
      let refusal ← readRefusal text
      let detail := detailOf refusal
      .error (Failure.ofStatus status (target ++ " returned " ++ toString status ++
        (if detail.isEmpty then "" else ": " ++ detail)) refusal)

theorem checkKind_of_resultOf {target : String} {r : Request} {reply : Reply} {v : Json}
    (h : resultOf target r reply = .ok v) : r.url.checkKind = .ok () := by
  cases reply with
  | answer status text =>
    obtain ⟨_, hkind, -⟩ := Outcome.bind_eq_ok_iff.mp h
    exact hkind
  | _ => cases h

theorem accident_of_readAnswer {text : String} {e : Failure} (h : readAnswer text = .error e) :
    e.Accident := by
  rw [readAnswer] at h
  split at h
  · cases h
  · exact Failure.accident_of_readBytes h

/-- Of a request that was carried out, only an unreadable answer is left to fail. -/
theorem accident_of_resultOf {target : String} {r : Request} {reply : Reply} {e : Failure}
    (hkind : r.url.checkKind = .ok ()) (hsuccess : reply.isSuccess = true)
    (h : resultOf target r reply = .error e) : e.Accident := by
  cases reply with
  | answer status text =>
    rw [resultOf, hkind, Outcome.ok_bind] at h
    rw [Reply.isSuccess] at hsuccess
    rw [if_pos hsuccess] at h
    exact accident_of_readAnswer h
  | _ => cases hsuccess

/-- The journal hears of a request before it is made. -/
def announcement (method path : String) : Event World :=
  ⟨.log .debug ("API request: " ++ (method ++ " " ++ path)), ()⟩

/-- A monitor of one request sees the announcement, then the request with its reply. -/
theorem holds_send {M : Monitor World} {g : M.State} {Q : M.State → Except Failure Json → Prop}
    (hM : M.Attentive) (hallowed : M.allows g (announcement method path))
    (hunsent : ∀ e, c.request method path query revision content = .error e →
      Q (M.next g (announcement method path)) (.error e))
    (hsent : ∀ r (reply : Reply), c.request method path query revision content = .ok r →
      M.allows (M.next g (announcement method path)) ⟨.send r, reply⟩ ∧
        Q (M.next (M.next g (announcement method path)) ⟨.send r, reply⟩)
          (resultOf (method ++ " " ++ path) r reply)) :
    (c.send method path query revision content : Task σ Json).Holds M Q g := by
  rw [send]
  refine .ask_bind fun _ => ⟨hallowed, .ofExcept_bind (fun r hr => ?_) hunsent⟩
  refine .ask_bind fun reply => ⟨(hsent r reply hr).1, ?_⟩
  replace hsent := (hsent r reply hr).2
  cases reply with
  | timeout message => exact .throw hsent
  | broken message => exact .throw hsent
  | unwritten f => exact .throw hsent
  | answer status text =>
    refine .ofExcept_bind (fun _ hkind => ?_) fun e hkind => ?_
    · have htext : "API response: " ++ toString status ++ " " ++ path =
          "API response: " ++ (toString status ++ (" " ++ path)) := by
        simp only [String.append_assoc]
      rw [htext]
      refine .ignored_bind (hM.response _) fun _ => ?_
      rw [resultOf, hkind, Outcome.ok_bind] at hsent
      dsimp only
      split
      · rw [if_pos ‹_›] at hsent
        exact .ofExcept hsent
      · rw [if_neg ‹_›] at hsent
        refine .ofExcept_bind (fun refusal hrefusal => ?_) fun e hrefusal => ?_
        · rw [hrefusal, Outcome.ok_bind] at hsent
          refine .ignored_bind (fun answer => hM.log _ _ answer (by decide)) fun _ => ?_
          exact .throw hsent
        · rwa [hrefusal, Outcome.error_bind] at hsent
    · rwa [resultOf, hkind, Outcome.error_bind] at hsent

end MarketingFlow.Client
