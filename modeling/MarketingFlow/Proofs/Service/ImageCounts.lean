import MarketingFlow.Proofs.Service.ImageUploads

/-!
# Images that builds report

The number of the images that a creator keeps is a tally of the hosted images over all its builds.
The result of a build reports that number: the images of earlier builds of the same creator count as
well.
-/

namespace MarketingFlow

variable {σ α : Type}

namespace Creator

def Memory.images (m : Memory) : Nat :=
  m.hosted.length

variable (k : Creator)

/-! ## The tally of a build -/

theorem tallies_prepare (content : Json) :
    (k.prepare content).Tallies Exchange.hostsImage Memory.images := by
  unfold prepare
  apply Task.Tallies.within (k.uploads.tallies_prepare ?_ content)
  · intro m x
    exact Nat.add_comm ..
  · exact fun path => k.client.hosting_imageFromFile _ _

/-- A call that uploads no image, if it is a request at all. -/
def UploadsNoImage : World.Call → Prop
  | .send r => r.UploadsNoImage
  | _ => True

instance : World.Call.Fetches UploadsNoImage where
  log _ _ := trivial
  sleep _ := trivial
  get r hget := by
    rintro ⟨hpost, -⟩
    exact absurd (hget.symm.trans hpost) (by decide)

theorem tallies_names {t : Task Directories α} (h : t.Calls UploadsNoImage) :
    (t.within Memory.directories fun m d => { m with directories := d } : Work α).Tallies
      Exchange.hostsImage Memory.images :=
  (h.tallies fun _ => hostsImage_eq_false).within fun _ _ => rfl

theorem keeps_tally : k.Keeps (Task.tally Exchange.hostsImage Memory.images) where
  prepare := k.tallies_prepare
  names := by
    have hnames : (accountNames k.client directoryRetry).Follows (.calls UploadsNoImage) :=
      NameService.follows_ofLoaders k.retries_metrics k.retries_lists
    constructor
    · exact fun name => tallies_names (hnames.findMetric name)
    · exact fun name => tallies_names (hnames.findList name)
    · exact tallies_names hnames.metricNames
    · exact tallies_names hnames.listNames
  createTemplate name html _ _ := (k.client.tallies_createTemplate name html).retry
  updateTemplate id html name _ _ := (k.client.tallies_updateTemplate id html name).retry
  flowActions id _ _ := (k.client.tallies_flowActions id).retry
  messages id _ _ := (k.client.tallies_flowActionMessages id).retry
  template := k.client.tallies_templateForMessage

theorem tallies_build (f : Flow) :
    (k.build f).Tallies Exchange.hostsImage Memory.images := by
  apply has_build k.keeps_tally
  · exact fun _ _ => k.client.tallies_ping.retry
  · exact fun payload _ _ => (k.client.tallies_createFlow payload).retry

end Creator

/-! ## An image in a file -/

namespace Path

theorem parts_top : parts "/a" = ["a"] := by
  -- The search for slashes is well-founded recursion, which does not reduce by itself.
  have hsplit : "/a".splitOn "/" = ["", "a"] := by
    rw [String.splitOn, if_neg (by decide)]
    rw [String.splitOnAux, if_neg (by decide), if_pos (by decide), if_pos (by decide)]
    rw [String.splitOnAux, if_neg (by decide), if_neg (by decide)]
    rw [String.splitOnAux, if_pos (by decide)]
    rfl
  rw [parts, hsplit]
  rfl

theorem resolve_top (directory : String) : resolve directory "/a" = "/a" := by
  rw [resolve, parts_top]
  rfl

theorem name_top : name "/a" = "a" := by
  rw [name, parts_top]
  rfl

end Path

theorem Client.imageFromFile_top (c : Client) :
    (c.imageFromFile (.str "/a") .null : Task σ Json) = (do
      let _ ← Task.ask .workingDirectory
      let found ← Task.ask (.look "/a")
      match Path.Found.isFile "/a" found with
      | .ok true =>
        Task.log .info "Uploading image from file: a"
        let content ← Task.ask (.fileBytes "/a")
        c.send "POST" "/image-upload/" none (some stableRevision)
          (.form [("name", .str "a"), ("hidden", .str "false")] "file" "a" content)
      | .ok false => throw { cause := .system .fileNotFound "Image file not found: /a" }
      | .error e => throw e) := by
  simp only [imageFromFile, namedFile, Path.parts_top, bind_assoc]
  apply bind_congr (x := Task.ask World.Call.workingDirectory)
  intro (directory : String)
  rw [Path.resolve_top]
  apply bind_congr (x := Task.ask (World.Call.look "/a"))
  intro (found : Path.Found)
  cases Path.Found.isFile "/a" found with
  | error e => rfl
  | ok isFile =>
    cases isFile with
    | false => rfl
    | true =>
      change (Task.log .info ("Uploading image from file: " ++ Path.name "/a") >>= fun _ =>
        Task.ask (.fileBytes "/a") >>= fun content =>
          c.send "POST" "/image-upload/" none (some stableRevision)
            (.form [("name", .str (Path.name "/a")), ("hidden", .str "false")] "file"
              (Path.name "/a") content)) = _
      rw [Path.name_top]
      rfl

/-- An image, and a text whose padding is no number, so that no page can be written. -/
def Email.pictured : Json :=
  .obj [("sections", .arr [.obj [("type", .str "image"), ("src", .str "/a")],
    .obj [("type", .str "text"), ("padding", .str "wide")]])]

theorem Email.localImages_pictured : localImages pictured = .ok ["/a"] := by
  cbv

namespace Flow

def pictured.email : Action :=
  ⟨"m", .email ⟨⟨.str "M", .null, .null, .null⟩, .null, .null, Email.pictured⟩⟩

def pictured : Flow :=
  { greeting with actions := [pictured.email], entry := .str "m" }

theorem traverse_pictured : pictured.traverse = .ok pictured.actions := by
  cbv

end Flow

/-- An outside where every path is a file and the service hosts all images. -/
def World.hosting : (c : World.Call) → World.Answer c
  | .look _ => Path.Found.file
  | .send r =>
    if r.path = "/image-upload/" then
      Reply.answer 201
        "\x7b\"data\":\x7b\"attributes\":\x7b\"image_url\":\"https://a.b/1\"\x7d\x7d\x7d"
    else World.smooth (.send r)
  | c => World.smooth c

namespace Creator

variable (k : Creator)

theorem prepare_pictured :
    k.prepare Email.pictured = (do
      let warnings ← k.uploads.uploadAll ["/a"]
      return (← Task.ofExcept (Email.hostedPage (← get).1 Email.pictured), warnings)).within
        (fun m => (m.hosted, ())) fun m x => { m with hosted := x.1 } := by
  rw [prepare, Email.Uploads.prepare, Email.localImages_pictured]
  rfl

theorem precreate_pictured :
    k.precreate .pictured = Task.log .info "Pre-creating 1 email template(s)..." >>= fun _ =>
      k.precreateEach [⟨Flow.pictured.email, Email.pictured⟩] .none := by
  rw [precreate, Flow.traverse_pictured]
  rfl

/-! ## Builds -/

/-- A result that is a success has counted all images that are kept at its end. -/
def Counted : Except Failure BuildResult → Memory → Prop
  | .ok result, m => result.success = true → result.imagesUploaded = m.images
  | .error _, _ => True

theorem leads_fail_counted {I : Memory → Prop} {r : BuildResult} (hr : r.success = false)
    (e : Failure) : (fail r e).Leads I Counted := by
  intro m _ t res m' hrun
  obtain ⟨-, hsuccess⟩ := (ensures_fail r e).reaches hrun
  cases res with
  | error e' => trivial
  | ok result =>
    intro htrue
    rw [hsuccess result rfl, hr] at htrue
    cases htrue

theorem leads_complete_counted {I : Memory → Prop} (f : Flow) (r : BuildResult)
    (prepared : Precreation) (flowId : Json) :
    (k.complete f r prepared flowId).Leads I Counted := by
  unfold complete
  dsimp only
  split
  all_goals
    refine Task.Leads.bind .anything ?_ ?_
    · rintro ⟨applied, warnings⟩
      apply Task.Leads.get_bind
      intro m _
      apply Task.Leads.ask_bind
      intro _
      apply Task.Leads.pure
      rintro _ rfl _
      rfl
    · intros
      trivial

theorem leads_build_counted (f : Flow) : (k.build f).Leads (fun _ => True) Counted := by
  unfold build
  apply Task.Leads.ask_bind
  intro _
  cases Payload.checkCapabilities f with
  | error e => exact leads_fail_counted rfl e
  | ok =>
    dsimp only
    refine Task.Leads.result_bind .anything ?_
    rintro (e | _)
    · dsimp only
      split
      · exact leads_fail_counted rfl e
      · apply Task.Leads.ask_bind
        intro _
        apply Task.Leads.pure
        rintro _ - ⟨⟩
    · refine Task.Leads.result_bind .anything ?_
      rintro (e | prepared)
      · exact leads_fail_counted rfl e
      · refine Task.Leads.result_bind .anything ?_
        rintro (e | creation)
        · exact leads_fail_counted rfl e
        · refine Task.Leads.result_bind .anything ?_
          rintro (e | flowId)
          · exact leads_fail_counted rfl e
          · exact k.leads_complete_counted f _ prepared flowId

/-- Builds that a creator made one after the other, with what each exchanged and came to. -/
inductive Builds : Memory → List (List Exchange × Except Failure BuildResult) → Memory → Prop
  | none (m) : Builds m [] m
  | next {m m₁ m' f t r rest} (h : (k.build f).Run m t r m₁) (hrest : Builds m₁ rest m') :
      Builds m ((exchanges t, r) :: rest) m'

variable {k} {m m' : Memory}
  {builds before after : List (List Exchange × Except Failure BuildResult)}

theorem Builds.images_eq (h : k.Builds m builds m') :
    m'.images = m.images + (builds.map fun b => imagesHosted b.1).sum := by
  induction h with
  | none m => rfl
  | next h _ ih =>
    rw [ih, k.tallies_build _ _ _ _ _ h, List.map_cons, List.sum_cons, Nat.add_assoc]
    rfl

theorem Builds.split (h : k.Builds m (before ++ after) m') :
    ∃ m₁, k.Builds m before m₁ ∧ k.Builds m₁ after m' := by
  induction before generalizing m with
  | nil => exact ⟨m, .none m, h⟩
  | cons b before ih =>
    cases h with
    | next hb hrest =>
      obtain ⟨m₁, hbefore, hafter⟩ := ih hrest
      exact ⟨m₁, .next hb hbefore, hafter⟩

/-- Each success reports the images hosted by the builds of the creator up to its end, its own and
those of all earlier builds. These are its own alone if and only if no earlier build hosted any. -/
theorem images_reported {x : List Exchange} {result : BuildResult}
    (h : k.Builds .empty (before ++ (x, .ok result) :: after) m)
    (hsuccess : result.success = true) :
    result.imagesUploaded = (before.map fun b => imagesHosted b.1).sum + imagesHosted x ∧
      (result.imagesUploaded = imagesHosted x ↔ ∀ b ∈ before, imagesHosted b.1 = 0) := by
  obtain ⟨m₁, hbefore, hlater⟩ := h.split
  cases hlater with
  | @next _ m₂ _ f t _ _ hbuild hafter =>
    have hkept : m₁.images = (before.map fun b => imagesHosted b.1).sum := by
      rw [hbefore.images_eq]
      exact Nat.zero_add _
    have hadded : m₂.images = m₁.images + imagesHosted (exchanges t) :=
      k.tallies_build f m₁ t _ m₂ hbuild
    have hreported : result.imagesUploaded = m₂.images :=
      k.leads_build_counted f m₁ trivial t _ m₂ hbuild hsuccess
    have htotal := hreported.trans (hadded.trans (congrArg (· + _) hkept))
    constructor
    · exact htotal
    · rw [htotal, Nat.add_eq_right, List.sum_eq_zero_iff, List.forall_mem_map]

/-- A build breaks off after it has hosted an image, and the next one, which hosts none, reports
one. -/
theorem image_reported_again :
    ∃ x r y result m, nearby.Builds .empty [(x, r), (y, .ok result)] m ∧ result.success = true ∧
      imagesHosted x = 1 ∧ imagesHosted y = 0 ∧ result.imagesUploaded = 1 := by
  let one := Program.record World.hosting 60 ((nearby.build .pictured).start .empty)
  let two := fun m => Program.record World.hosting 60 ((nearby.build .greeting).start m)
  have hlast : (one.2.result?.bind fun x => (two x.2).2.result?.bind fun y =>
      y.1.toOption.map fun result => (imagesHosted (exchanges one.1),
        imagesHosted (exchanges (two x.2).1), result.success)) = some (1, 0, true) := by
    simp only [one, two, build, precreate_pictured, precreateEach, prepare_pictured,
      Email.Uploads.uploadAll, Email.Uploads.upload, uploads, Client.imageFromFile_top]
    simp only [nearby, precreate, Payload.ofFlow, Flow.traverse_greeting, create,
      Client.createFlow, Client.send, Client.request, Content.toBody_document]
    decide +kernel
  obtain ⟨⟨r, m⟩, hone, hlast⟩ := Option.bind_eq_some_iff.mp hlast
  obtain ⟨⟨_ | result, m'⟩, htwo, hresult⟩ := Option.bind_eq_some_iff.mp hlast
  · cases hresult
  · obtain ⟨hx, hy, hsuccess⟩ : imagesHosted (exchanges one.1) = 1 ∧
        imagesHosted (exchanges (two m).1) = 0 ∧ result.success = true := by
      simpa [Except.toOption] using hresult
    have hbuilds : nearby.Builds .empty
        ([(exchanges one.1, r)] ++ (exchanges (two m).1, .ok result) :: []) m' :=
      .next (Program.reaches_of_record hone) (.next (Program.reaches_of_record htwo) (.none m'))
    obtain ⟨hreported, -⟩ := images_reported hbuilds hsuccess
    refine ⟨_, r, _, result, m', hbuilds, hsuccess, hx, hy, ?_⟩
    rw [hreported, hy, List.map_singleton, List.sum_singleton, hx]

end Creator

end MarketingFlow
