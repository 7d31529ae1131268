import MarketingFlow.Proofs.Interaction.States
import MarketingFlow.Proofs.Interaction.Tallies
import MarketingFlow.Proofs.Service.Refusals
import MarketingFlow.Proofs.Service.Returns

/-!
# Uploads of images

An upload hosts its image if it is answered with the address of the image. Only then is an image
kept, and no path with a kept image is uploaded again. So the number of the kept images is a tally
of the uploads that hosted one.
-/

namespace MarketingFlow

open Outcome

/-- The address of an image in the document that answers its upload. -/
def Json.imageUrl (document : Json) : Json :=
  ((document.member "data").member "attributes").member "image_url"

/-- The upload of an image was answered with its address. -/
def Exchange.hostsImage (e : Exchange) : Bool :=
  e.request.method == "POST" && e.request.path == "/image-upload/" &&
    match Client.resultOf (e.request.method ++ " " ++ e.request.path) e.request e.reply with
    | .ok document => document.imageUrl.given
    | .error _ => false

def imagesHosted (x : List Exchange) : Nat :=
  x.countP Exchange.hostsImage

theorem imagesHosted_append (x y : List Exchange) :
    imagesHosted (x ++ y) = imagesHosted x + imagesHosted y :=
  List.countP_append

theorem hostsImage_eq_false {e : Exchange} (h : e.request.UploadsNoImage) :
    e.hostsImage = false := by
  rw [Bool.eq_false_iff]
  intro hhosts
  simp only [Exchange.hostsImage, Bool.and_eq_true, beq_iff_eq] at hhosts
  exact h hhosts.1

variable {σ α : Type} {count : σ → Nat}

/-! ## Calls that upload no image -/

namespace Client

variable (c : Client)

theorem tallies_send {method path : String} {query : Option Query.Pairs} {revision : Option String}
    {content : Content} (h : ¬(method = "POST" ∧ path = "/image-upload/")) :
    (c.send method path query revision content : Task σ Json).Tallies
      Exchange.hostsImage count := by
  unfold send
  apply (Task.Tallies.log _ _).bind
  intro _
  apply Task.Tallies.ofExcept_bind
  intro r hr
  obtain ⟨hmethod, hpath, -⟩ := request_eq_ok hr
  apply Task.Tallies.ask_bind
  · intro reply
    apply List.countP_eq_zero.mpr
    intro e he
    obtain rfl : e = ⟨r, reply⟩ := List.mem_singleton.mp he
    rw [hostsImage_eq_false (by rwa [Request.UploadsNoImage, Request.UploadsImage, hmethod, hpath])]
    exact Bool.false_ne_true
  · intro reply
    cases reply with
    | answer status text => grind
    | _ => grind

@[grind ←] theorem tallies_send_get {path : String} {query : Option Query.Pairs}
    {revision : Option String} {content : Content} :
    (c.send "GET" path query revision content : Task σ Json).Tallies Exchange.hostsImage count :=
  c.tallies_send (by simp)

@[grind ←] theorem tallies_send_patch {path : String} {query : Option Query.Pairs}
    {revision : Option String} {content : Content} :
    (c.send "PATCH" path query revision content : Task σ Json).Tallies Exchange.hostsImage count :=
  c.tallies_send (by simp)

@[grind ←] theorem tallies_send_post {path : String} {query : Option Query.Pairs}
    {revision : Option String} {content : Content} (h : path ≠ "/image-upload/") :
    (c.send "POST" path query revision content : Task σ Json).Tallies Exchange.hostsImage count :=
  c.tallies_send (by simp [h])

theorem tallies_ping : (c.ping : Task σ Unit).Tallies Exchange.hostsImage count := by
  unfold ping
  grind

theorem tallies_createFlow (payload : Json) :
    (c.createFlow payload : Task σ Json).Tallies Exchange.hostsImage count := by
  unfold createFlow
  grind

theorem tallies_createTemplate (name html : Json) :
    (c.createTemplate name html : Task σ Json).Tallies Exchange.hostsImage count := by
  unfold createTemplate
  grind

theorem tallies_updateTemplate (id html name : Json) :
    (c.updateTemplate id html name : Task σ Json).Tallies Exchange.hostsImage count := by
  unfold updateTemplate
  grind

theorem tallies_flowActions (id : Json) :
    (c.flowActions id : Task σ Json).Tallies Exchange.hostsImage count := by
  unfold flowActions get
  grind

theorem tallies_flowActionMessages (id : Json) :
    (c.flowActionMessages id : Task σ Json).Tallies Exchange.hostsImage count := by
  unfold flowActionMessages get
  grind

theorem tallies_templateForMessage (id : Json) :
    (c.templateForMessage id : Task σ Json).Tallies Exchange.hostsImage count := by
  unfold templateForMessage
  induction c.templateRevisions with
  | nil =>
    unfold templateAt
    grind
  | cons revision rest ih =>
    unfold templateAt get
    grind

end Client

/-! ## Uploads -/

theorem Email.Uploads.addressIn_eq_ok_iff {answer url : Json} :
    addressIn answer = .ok url ↔ answer.isObject = true ∧ (answer.member "data").isRecord = true ∧
      ((answer.member "data").member "attributes").isRecord = true ∧ answer.imageUrl = url := by
  rw [addressIn, bind_eq_ok_iff]
  constructor
  · rintro ⟨data, hdata, h⟩
    obtain ⟨hobject, rfl⟩ := Json.get_eq_ok_iff.mp hdata
    obtain ⟨attributes, hattributes, h⟩ := bind_eq_ok_iff.mp h
    obtain ⟨hrecord, rfl⟩ := Json.get_orEmpty_eq_ok_iff.mp hattributes
    obtain ⟨hrecord', hurl⟩ := Json.get_orEmpty_eq_ok_iff.mp h
    exact ⟨hobject, hrecord, hrecord', hurl⟩
  · rintro ⟨hobject, hrecord, hrecord', hurl⟩
    refine ⟨_, Json.get_eq_ok_iff.mpr ⟨hobject, rfl⟩, ?_⟩
    rw [Json.get_orEmpty_eq_ok_iff.mpr ⟨hrecord, rfl⟩, ok_bind]
    exact Json.get_orEmpty_eq_ok_iff.mpr ⟨hrecord', hurl⟩

theorem Email.Uploads.addressIn_of_given {answer : Json} (h : answer.imageUrl.given = true) :
    addressIn answer = .ok answer.imageUrl := by
  have hattributes : ((answer.member "data").member "attributes").isObject = true := by
    apply Json.isObject_of_member "image_url"
    intro hnull
    rw [Json.imageUrl, hnull] at h
    cases h
  have hdata : (answer.member "data").isObject = true := by
    apply Json.isObject_of_member "attributes"
    intro hnull
    rw [hnull] at hattributes
    cases hattributes
  have hanswer : answer.isObject = true := by
    apply Json.isObject_of_member "data"
    intro hnull
    rw [hnull] at hdata
    cases hdata
  exact addressIn_eq_ok_iff.mpr ⟨hanswer, Json.isRecord_of_isObject hdata,
    Json.isRecord_of_isObject hattributes, rfl⟩

/-- What an upload comes to: an image was hosted if and only if its address is in the answer. -/
def Hosting (x : List Exchange) : Except Failure Json → Prop
  | .ok answer => imagesHosted x = answer.imageUrl.given.toNat
  | .error _ => imagesHosted x = 0

theorem Client.ensures_namedFile (file : Json) :
    (namedFile file : Task σ String).Ensures fun x _ => x = [] := by
  unfold namedFile
  split
  · refine .ofExcept_bind (fun _ _ => .quiet_bind fun _ => .quiet_bind fun _ => ?_) fun _ _ => rfl
    refine .ofExcept_bind (fun _ _ => ?_) fun _ _ => rfl
    split
    · exact .pure rfl
    · exact .throw rfl
  · exact .throw rfl

theorem Client.hosting_imageFromFile (c : Client) (file name : Json) :
    (c.imageFromFile file name : Task σ Json).Ensures Hosting := by
  unfold imageFromFile
  apply (ensures_namedFile file).bind
  · rintro _ path rfl
    refine .quiet_bind fun _ => .quiet_bind fun _ => c.ensures_send_resultOf.mono ?_
    rintro _ r (⟨rfl, e, rfl⟩ | ⟨e, rfl, hmethod, hpath, rfl⟩)
    · rfl
    · have hhosts : imagesHosted [e] = e.hostsImage.toNat := by
        cases h : e.hostsImage <;> simp [imagesHosted, h]
      rw [List.nil_append]
      cases hresult : resultOf ("POST" ++ " " ++ "/image-upload/") e.request e.reply with
      | ok document =>
        rw [Hosting, hhosts, Exchange.hostsImage, hmethod, hpath, hresult]
        rfl
      | error f =>
        rw [Hosting, hhosts, Exchange.hostsImage, hmethod, hpath, hresult]
        rfl
  · rintro _ e rfl
    rfl

theorem hosting_retry {t : Task σ Json} (h : t.Ensures Hosting) (label : String)
    (o : RetryOptions Number) : (t.retry label o).Ensures Hosting := by
  have hfail : ∀ x y (e : Failure), imagesHosted x = 0 → Hosting y (.error e) →
      imagesHosted (x ++ y) = 0 := by
    intro x y e hx hy
    rw [imagesHosted_append, hx, hy]
  refine Task.Ensures.retry (A := fun x => imagesHosted x = 0) h rfl ?_ hfail ?_ ?_
  · intro x y answer hx hy
    rw [Hosting, imagesHosted_append, hx, hy, Nat.zero_add]
  · exact fun x y e _ hx hy => hfail x y e hx hy
  · exact fun x y e _ _ hx hy _ => hfail x y e hx hy

namespace Email.Uploads

variable {u : Uploads σ} (h : ∀ path, (u.uploader path).Ensures Hosting)

/-- What follows the answer to an upload. -/
def keep (u : Uploads σ) (path : String) (answer : Json) : Task (Hosted × σ) Json := do
  let url ← Task.ofExcept (addressIn answer)
  if !url.given then
    throw (Failure.value ("Image upload for " ++ path ++ " returned no image_url"))
  modify fun s => (Members.set s.1 path url, s.2)
  Task.log .info ("Image hosted: " ++ path ++ " -> " ++ url.text)
  u.pause
  return url

/-- The call of the uploader with all its attempts. -/
def attempts (u : Uploads σ) (path : String) : Task (Hosted × σ) Json :=
  ((u.uploader path).within Prod.snd fun s x => (s.1, x)).retry ("Upload image " ++ path) u.retry

theorem run_upload {path : String} {s s' : Hosted × σ} {t : List (Event World)}
    {r : Except Failure Json} (hr : (u.upload path).Run s t r s') :
    (∃ url, s.1.find? path = some url ∧ (pure url : Task (Hosted × σ) Json).Run s t r s') ∨
      s.1.find? path = none ∧ (u.attempts path >>= u.keep path).Run s t r s' := by
  rw [upload] at hr
  replace hr := Task.run_get_bind hr
  cases hfind : s.1.find? path with
  | some url =>
    rw [hfind] at hr
    exact Or.inl ⟨url, rfl, hr⟩
  | none =>
    rw [hfind] at hr
    exact Or.inr ⟨rfl, hr⟩

theorem run_attempts {path : String} {s s' : Hosted × σ} {t : List (Event World)}
    {r : Except Failure Json} (hr : (u.attempts path).Run s t r s') : s'.1 = s.1 := by
  have hleads : (u.attempts path).Leads (fun x => x.1 = s.1) fun _ x => x.1 = s.1 := by
    have honce : ((u.uploader path).within Prod.snd fun s x => (s.1, x) :
        Task (Hosted × σ) Json).Leads (fun x => x.1 = s.1) fun _ x => x.1 = s.1 :=
      Task.Leads.within (I := fun _ => True) .anything (fun _ _ => trivial) fun _ _ _ hs _ => hs
    exact honce.retry (fun _ _ hx => hx) (fun _ _ hx => hx) (fun _ _ _ hx => hx)
      fun _ _ _ _ hx _ => hx
  exact hleads s rfl t r s' hr

theorem tallies_pause {count : Hosted × σ → Nat} :
    u.pause.Tallies Exchange.hostsImage count := by
  unfold pause
  grind

/-- An answer without an address breaks off before anything is kept, however it is written. -/
theorem run_keep_cases {path : String} {answer : Json} {s s' : Hosted × σ}
    {t : List (Event World)} {r : Except Failure Json} (hr : (u.keep path answer).Run s t r s') :
    (answer.imageUrl.given = false ∧ ∃ e, t = [] ∧ r = .error e ∧ s' = s) ∨
      answer.imageUrl.given = true ∧
        (Task.log .info ("Image hosted: " ++ path ++ " -> " ++ answer.imageUrl.text) >>=
          fun _ => u.pause >>= fun _ => pure answer.imageUrl).Run
            (Members.set s.1 path answer.imageUrl, s.2) t r s' := by
  rw [keep] at hr
  cases haddress : addressIn answer with
  | error e =>
    have hgiven : answer.imageUrl.given = false := by
      rw [Bool.eq_false_iff]
      intro hgiven
      rw [addressIn_of_given hgiven] at haddress
      cases haddress
    rw [haddress] at hr
    obtain ⟨rfl, rfl, rfl⟩ := Task.run_ofExcept (x := .error e) hr
    exact Or.inl ⟨hgiven, e, rfl, rfl, rfl⟩
  | ok url =>
    obtain ⟨-, -, -, rfl⟩ := addressIn_eq_ok_iff.mp haddress
    rw [haddress] at hr
    change Task.Run (if (!answer.imageUrl.given) = true then _ else _) s t r s' at hr
    cases hgiven : answer.imageUrl.given with
    | false =>
      rw [if_pos (by rw [hgiven]; rfl)] at hr
      obtain ⟨rfl, rfl, rfl⟩ := Task.run_ofExcept hr
      exact Or.inl ⟨rfl, _, rfl, rfl, rfl⟩
    | true =>
      rw [if_neg (by rw [hgiven]; decide)] at hr
      exact Or.inr ⟨rfl, hr⟩

/-- The image is kept if and only if the answer has its address. -/
theorem run_keep {path : String} {answer : Json} {s s' : Hosted × σ} {t : List (Event World)}
    {r : Except Failure Json} (hnone : s.1.find? path = none)
    (hr : (u.keep path answer).Run s t r s') :
    s'.1.length = s.1.length + answer.imageUrl.given.toNat + imagesHosted (exchanges t) := by
  rcases run_keep_cases hr with ⟨hgiven, e, rfl, -, rfl⟩ | ⟨hgiven, hrest⟩
  · rw [hgiven]
    rfl
  · have htail : (Task.log .info ("Image hosted: " ++ path ++ " -> " ++ answer.imageUrl.text) >>=
        fun _ => u.pause >>= fun _ => pure answer.imageUrl : Task (Hosted × σ) Json).Tallies
          Exchange.hostsImage fun s => s.1.length :=
      (Task.Tallies.log _ _).bind fun _ => u.tallies_pause.bind fun _ => .pure _
    have hadded : (Members.set s.1 path answer.imageUrl).length = s.1.length + 1 := by
      rw [Members.set_of_notMem (Members.find?_eq_none_iff.mp hnone), List.length_append]
      rfl
    have hlength : s'.1.length =
        (Members.set s.1 path answer.imageUrl).length + imagesHosted (exchanges t) :=
      htail _ t r s' hrest
    rw [hlength, hgiven, hadded]
    rfl

include h in
theorem tallies_upload (path : String) :
    (u.upload path).Tallies Exchange.hostsImage fun s => s.1.length := by
  intro s t r s' hr
  rcases run_upload hr with ⟨url, -, hr⟩ | ⟨hnone, hr⟩
  · have htallies : (pure url : Task (Hosted × σ) Json).Tallies Exchange.hostsImage
        fun s => s.1.length := .pure url
    exact htallies s t r s' hr
  · have hhosting : (u.attempts path).Ensures Hosting :=
      hosting_retry (h path).within ("Upload image " ++ path) u.retry
    -- The image counts in the exchanges of the attempts, and in the state only afterwards.
    rcases Task.run_bind hr with ⟨v, w, answer, s₁, rfl, hattempts, hkeep⟩ | ⟨e, rfl, hattempts⟩
    · have hstay := run_attempts hattempts
      have hcount : imagesHosted (exchanges v) = answer.imageUrl.given.toNat :=
        hhosting.reaches hattempts
      have hlength := run_keep (hstay ▸ hnone) hkeep
      change s'.1.length = s.1.length + imagesHosted (exchanges (v ++ w))
      rw [hlength, hstay, exchanges_append, imagesHosted_append, hcount, Nat.add_assoc]
    · have hcount : imagesHosted (exchanges t) = 0 := hhosting.reaches hattempts
      change s'.1.length = s.1.length + imagesHosted (exchanges t)
      rw [run_attempts hattempts, hcount, Nat.add_zero]

include h in
theorem tallies_uploadAll (paths : List String) :
    (u.uploadAll paths).Tallies Exchange.hostsImage fun s => s.1.length := by
  induction paths with
  | nil =>
    unfold uploadAll
    exact .pure _
  | cons path rest ih =>
    unfold uploadAll
    apply (tallies_upload h path).result.bind
    grind

include h in
theorem tallies_prepare (content : Json) :
    (u.prepare content).Tallies Exchange.hostsImage fun s => s.1.length := by
  unfold prepare
  apply (Task.Tallies.ofExcept _).bind
  intro paths
  apply (tallies_uploadAll h paths).bind
  grind

end Email.Uploads

end MarketingFlow
