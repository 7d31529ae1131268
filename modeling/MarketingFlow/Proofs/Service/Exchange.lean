import MarketingFlow.Proofs.Service.Fitting

/-!
# Calls after the creation

What a call of the service comes to once a flow is there: a success as far as the reply fits, a
failure that is foreseen as long as all replies fit, and an accident otherwise. A call that may be
repeated comes to the same in the end, since accidents are not tried again and a request that cannot
be sent will not be sent the next time either.
-/

namespace MarketingFlow

open Outcome

/-! ## What a reply comes to -/

namespace Client

variable {c : Client} {method path target : String} {revision : Option String} {content : Content}
  {r : Request} {reply : Reply}

theorem unforeseen_request (h : Unforeseen content.toBody) :
    Unforeseen (c.request method path none revision content) := by
  rw [request]
  refine (Url.unforeseen_join _ _).bind fun _ => .bind (.ok _) fun _ => h.bind fun _ => ?_
  refine (unforeseen_checkEncoding _ _).bind fun _ => ?_
  exact (Url.unforeseen_hostName _).bind fun _ => .ok _

theorem fits_of_resultOf_ok {v : Json} (h : resultOf target r reply = .ok v) :
    reply.fits r = fitsCall r.method r.path v := by
  cases reply with
  | answer status text =>
    obtain ⟨_, -, h⟩ := bind_eq_ok_iff.mp h
    rw [Reply.fits]
    split at h
    · rw [if_pos ‹_›, h]
    · obtain ⟨_, -, h⟩ := bind_eq_ok_iff.mp h
      cases h
  | _ => cases h

theorem accident_of_readRefusal {text : String} {e : Failure} (h : readRefusal text = .error e) :
    e.Accident := by
  rw [readRefusal] at h
  split at h
  · cases h
  · split at h
    · cases h
    · cases h
      exact Failure.accident_of_readBytes ‹_›

/-- A failure is foreseen if the reply fits; else it is an accident. -/
theorem fits_of_resultOf_error {e : Failure} (hkind : r.url.checkKind = .ok ())
    (hwritten : Event.isWritten ⟨.send r, reply⟩ = true) (h : resultOf target r reply = .error e) :
    reply.fits r = true ∧ e.foreseen = true ∨ reply.fits r = false ∧ e.Accident := by
  cases reply with
  | timeout message =>
    cases h
    exact .inl ⟨rfl, rfl⟩
  | broken message =>
    cases h
    exact .inl ⟨rfl, rfl⟩
  | unwritten f => cases hwritten
  | answer status text =>
    rw [resultOf, hkind, ok_bind] at h
    rw [Reply.fits]
    split at h
    · rename_i hsuccess
      rw [if_pos hsuccess, h]
      exact .inr ⟨rfl, accident_of_readAnswer h⟩
    · rw [if_neg ‹_›]
      cases hrefusal : readRefusal text with
      | error f =>
        rw [hrefusal, error_bind] at h
        cases h
        exact .inr ⟨rfl, accident_of_readRefusal hrefusal⟩
      | ok refusal =>
        rw [hrefusal, ok_bind] at h
        cases h
        exact .inl ⟨rfl, rfl⟩

/-- All paths of the service can be got at. -/
structure Reached (c : Client) : Prop where
  kind : c.HasKind
  scheme : c.base.scheme ≠ []

end Client

/-! ## Settled results -/

namespace Account

variable {σ α β : Type} {id : String} {g : Option Account} {U : Prop} {R : Prop → α → Prop}

/-- There is an account of the flow, of which `p` holds unless the service failed to write a reply.
-/
def Watched (id : String) (p : Account → Prop) (g : Option Account) : Prop :=
  ∃ a, g = some a ∧ a.id = id ∧ (a.written = true → p a)

/-- What a call comes to: a value that relates by `R` to the account's being sound, or a failure,
which is foreseen if and only if the account is sound. -/
def Settled (R : Prop → α → Prop) (id : String) (g : Option Account) : Except Failure α → Prop
  | .ok v => Watched id (fun a => R a.Sound v) g
  | .error e => Watched id (fun a => a.Sound ↔ e.foreseen = true) g

/-- The account is sound, or else the request that `U` says cannot be sent was left unsent. -/
def Ready (U : Prop) (id : String) (g : Option Account) : Prop :=
  Watched id (fun a => a.Sound ∨ U ∧ 0 < a.unsent) g

/-- What one attempt comes to: after a failure that is tried again, another attempt can be made. -/
def Attempted (U : Prop) (R : Prop → α → Prop) (id : String) (g : Option Account)
    (r : Except Failure α) : Prop :=
  Settled R id g r ∧
    ∀ e, r = .error e → e.isRetryable RetryOptions.transient = true → Ready U id g

theorem Watched.imp {p q : Account → Prop} (h : Watched id p g) (hpq : ∀ a, p a → q a) :
    Watched id q g := by
  obtain ⟨a, rfl, hid, ha⟩ := h
  exact ⟨a, rfl, hid, fun hw => hpq a (ha hw)⟩

theorem Watched.ready (h : Watched id Sound g) : Ready U id g :=
  h.imp fun _ ha => .inl ha

/-- An accident where the reply did not fit. -/
theorem settled_accident {e : Failure} (h : Watched id (fun a => ¬ a.Sound) g)
    (he : e.foreseen = false) : Settled R id g (.error e) := by
  refine h.imp fun a ha => ?_
  rw [he]
  exact ⟨fun hs => absurd hs ha, Bool.noConfusion⟩

theorem attempted_accident {e : Failure} (h : Watched id (fun a => ¬ a.Sound) g) (he : e.Accident) :
    Attempted U R id g (.error e) := by
  refine ⟨settled_accident h he.1, ?_⟩
  rintro _ ⟨rfl⟩ hretryable
  exact absurd hretryable (Bool.eq_false_iff.mp he.2)

theorem add_announcement (a : Account) (method path : String) :
    a.add (Client.announcement method path) = { a with unsent := a.unsent + 1 } := by
  have hstart : (Client.announcement method path).isAnnouncement = true := by
    change "API request: ".toList.isPrefixOf
      ("API request: " ++ (method ++ " " ++ path)).toList = true
    rw [String.toList_append]
    exact List.isPrefixOf_iff_prefix.mpr (List.prefix_append _ _)
  rw [add, hstart, Client.announcement]
  simp [Event.isSend, Event.fits, Event.isWritten]

theorem add_sent (a : Account) (r : Request) (reply : Reply) :
    ({ a with unsent := a.unsent + 1 } : Account).add ⟨.send r, reply⟩ =
      { a with
        fit := a.fit && reply.fits r
        written := a.written && Event.isWritten ⟨.send r, reply⟩ } := by
  simp [add, Event.isAnnouncement, Event.isSend, Event.fits]

/-- The request of a call cannot be made. -/
def Unsendable (c : Client) (method path : String) (revision : Option String) (content : Content) :
    Prop :=
  ∃ e, c.request method path none revision content = .error e

section

variable {c : Client} {method path : String} {revision : Option String} {content : Content}
  {a : Account}

theorem next_announcement (a : Account) (method path : String) :
    monitor.next (some a) (Client.announcement method path) =
      some { a with unsent := a.unsent + 1 } :=
  congrArg some (add_announcement a method path)

/-- A request that cannot be made is announced all the same. -/
theorem attempted_unsendable {e : Failure} (hid : a.id = id)
    (ha : a.written = true → a.Sound ∨ 0 < a.unsent) (hbody : Unforeseen content.toBody)
    (he : c.request method path none revision content = .error e) :
    Attempted (Unsendable c method path revision content) R id
      (some { a with unsent := a.unsent + 1 }) (.error e) := by
  have hunsent : a.written = true → 0 < a.unsent + 1 := by
    intro hw
    rcases ha hw with hs | hpos
    · rw [hs.1]
      decide
    · omega
  have hunforeseen := Client.unforeseen_request hbody e he
  refine ⟨settled_accident ⟨_, rfl, hid, fun hw hs => ?_⟩ hunforeseen, ?_⟩
  · exact absurd hs.1 (Int.ne_of_gt (hunsent hw))
  · exact fun _ _ _ => ⟨_, rfl, hid, fun hw => .inr ⟨⟨e, he⟩, hunsent hw⟩⟩

variable {r : Request} {reply : Reply} {target : String}

/-- After a reply a sound account stays sound if and only if the reply fits. -/
theorem watched_reply {p : Account → Prop} (hid : a.id = id) (ha : a.written = true → a.Sound)
    (hp : Event.isWritten ⟨.send r, reply⟩ = true →
      ∀ b : Account, (b.Sound ↔ reply.fits r = true) → p b) :
    Watched id p (some { a with
      fit := a.fit && reply.fits r
      written := a.written && Event.isWritten ⟨.send r, reply⟩ }) := by
  refine ⟨_, rfl, hid, fun hw => ?_⟩
  obtain ⟨hwritten, hreply⟩ := Bool.and_eq_true_iff.mp hw
  obtain ⟨hunsent, hfit⟩ := ha hwritten
  refine hp hreply _ ?_
  simp [Sound, hunsent, hfit]

theorem attempted_reply (hid : a.id = id) (ha : a.written = true → a.Sound)
    (hkind : r.url.checkKind = .ok ()) :
    Attempted U (fun sound v => sound ↔ fitsCall r.method r.path v = true) id
      (some { a with
        fit := a.fit && reply.fits r
        written := a.written && Event.isWritten ⟨.send r, reply⟩ })
      (Client.resultOf target r reply) := by
  cases hresult : Client.resultOf target r reply with
  | ok v =>
    refine ⟨watched_reply hid ha fun _ b hb => ?_, ?_⟩
    · rw [hb, Client.fits_of_resultOf_ok hresult]
    · rintro e ⟨⟩
  | error e =>
    refine ⟨watched_reply hid ha fun hw b hb => ?_, ?_⟩
    · rcases Client.fits_of_resultOf_error hkind hw hresult with ⟨hfits, he⟩ | ⟨hfits, he, -⟩
      · rw [hb, hfits, he]
      · rw [hb, hfits, he]
    · rintro _ ⟨rfl⟩ hretryable
      refine watched_reply hid ha fun hw b hb => .inl ?_
      rcases Client.fits_of_resultOf_error hkind hw hresult with ⟨hfits, -⟩ | ⟨-, -, he⟩
      · exact hb.mpr hfits
      · exact absurd hretryable (Bool.eq_false_iff.mp he)

/-- A call of the service with its announcement. Only a reply that does not fit, or a request that
is not sent, makes the account unsound. -/
theorem holds_exchange (hc : c.Reached) (hpath : ∃ cs, path.toList = '/' :: cs)
    (hplain : ¬ (method = "POST" ∧ path = "/flows/")) (hbody : Unforeseen content.toBody)
    (hg : Ready (Unsendable c method path revision content) id g) :
    (c.send method path none revision content : Task σ Json).Holds monitor
      (Attempted (Unsendable c method path revision content)
        (fun sound v => sound ↔ fitsCall method path v = true) id) g := by
  obtain ⟨a, rfl, hid, ha⟩ := hg
  refine Client.holds_send discreet_monitor.toAttentive rfl ?_ ?_
  · intro e he
    rw [next_announcement]
    exact attempted_unsendable hid (fun hw => (ha hw).imp_right And.right) hbody he
  · intro r reply hr
    obtain ⟨hmethod, hpathr, -⟩ := Client.request_eq_ok hr
    have hsound : a.written = true → a.Sound := by
      intro hw
      rcases ha hw with hs | ⟨⟨e, he⟩, -⟩
      · exact hs
      · rw [hr] at he
        cases he
    rw [next_announcement]
    refine ⟨createdId?_of_plain (c := .send r) ?_ reply, ?_⟩
    · rw [World.Call.Plain, hmethod, hpathr]
      exact hplain
    · change Attempted _ _ id (some (Account.add _ _)) _
      rw [add_sent, ← hmethod, ← hpathr]
      exact attempted_reply hid hsound (hc.kind.checkKind hc.scheme hpath hr)

end

/-- Reading something that a sound account vouches for. -/
theorem holds_read {x : Except Failure β} {f : β → Task σ α}
    (hx : Watched id (fun a => a.Sound → ∃ b, x = .ok b) g) (hf : Fails Failure.Accident x)
    (hok : ∀ b, x = .ok b → (f b).Holds monitor (Attempted U R id) g) :
    (Task.ofExcept x >>= f).Holds monitor (Attempted U R id) g := by
  refine .ofExcept_bind hok fun e he => attempted_accident (hx.imp fun a ha hs => ?_) (hf e he)
  obtain ⟨b, hb⟩ := ha hs
  rw [he] at hb
  cases hb

/-- The same where nothing is tried again. -/
theorem holds_readOnce {x : Except Failure β} {f : β → Task σ α}
    (hx : Watched id (fun a => a.Sound → ∃ b, x = .ok b) g) (hf : Unforeseen x)
    (hok : ∀ b, x = .ok b → (f b).Holds monitor (Settled R id) g) :
    (Task.ofExcept x >>= f).Holds monitor (Settled R id) g := by
  refine .ofExcept_bind hok fun e he => settled_accident (hx.imp fun a ha hs => ?_) (hf e he)
  obtain ⟨b, hb⟩ := ha hs
  rw [he] at hb
  cases hb

/-- A task that can be attempted again and again: some request of it may turn out unsendable. -/
def Repeatable (R : Prop → α → Prop) (id : String) (t : Task σ α) : Prop :=
  ∃ U, ∀ g, Ready U id g → t.Holds monitor (Attempted U R id) g

theorem repeatable_send {c : Client} {method path : String} {revision : Option String}
    {content : Content} (hc : c.Reached) (hpath : ∃ cs, path.toList = '/' :: cs)
    (hplain : ¬ (method = "POST" ∧ path = "/flows/")) (hbody : Unforeseen content.toBody) :
    Repeatable (fun sound v => sound ↔ fitsCall method path v = true) id
      (c.send method path none revision content : Task σ Json) :=
  ⟨_, fun _ hg => holds_exchange hc hpath hplain hbody hg⟩

theorem Repeatable.bind {S : Prop → β → Prop} {t : Task σ α} {f : α → Task σ β}
    (h : Repeatable R id t) (hf : ∀ U g v, Watched id (fun a => R a.Sound v) g →
      (f v).Holds monitor (Attempted U S id) g) : Repeatable S id (t >>= f) := by
  obtain ⟨U, h⟩ := h
  refine ⟨U, fun g hg => (h g hg).bind (fun g v hr => hf U g v hr.1) ?_⟩
  rintro g e ⟨hr, hagain⟩
  refine ⟨hr, ?_⟩
  rintro _ ⟨rfl⟩
  exact hagain e rfl

theorem Repeatable.imp {S : Prop → α → Prop} {t : Task σ α} (h : Repeatable R id t)
    (hRS : ∀ sound v, R sound v → S sound v) : Repeatable S id t := by
  obtain ⟨U, h⟩ := h
  refine ⟨U, fun g hg => (h g hg).mono ?_⟩
  rintro g (e | v) ⟨hr, hagain⟩
  · exact ⟨hr, hagain⟩
  · exact ⟨Watched.imp hr fun a => hRS a.Sound v, hagain⟩

theorem Repeatable.log_bind {level : Level} [level.Notable] {text : String}
    {f : Unit → Task σ α} (h : Repeatable R id (f ())) :
    Repeatable R id (Task.log level text >>= f) := by
  obtain ⟨U, h⟩ := h
  exact ⟨U, fun g hg => .log_bind discreet_monitor (h g hg)⟩

/-- All attempts together. -/
theorem Repeatable.holds_call {t : Creator.Work α} (ht : Repeatable R id t) (label : String)
    (hg : Watched id Sound g) : (Creator.call t label 3).Holds monitor (Settled R id) g := by
  obtain ⟨U, ht⟩ := ht
  refine Task.Holds.retry (A := Ready U id) (P := Attempted U R id) discreet_monitor ht
    (fun _ _ h => h.1) (fun _ e h hretryable => h.2 e rfl hretryable) (fun _ _ _ h => h.1) ?_
    hg.ready
  rintro _ _ e n - - hn hless hdelay
  have hattempts : n < 3 := hless
  obtain rfl | rfl : n = 1 ∨ n = 2 := by omega
  · cases hdelay
  · cases hdelay

end Account

end MarketingFlow
