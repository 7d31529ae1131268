import MarketingFlow.Proofs.Interaction.Exchanges
import MarketingFlow.Proofs.Service.Calls

/-!
# The stages of a build

Up to the creation of the flow, a build through the service makes plain calls. Of a monitor that
they do not bother, only what happens from the creation on has to be looked at. By then the service
has been reached, so that its address is known to say how to get there.
-/

namespace MarketingFlow

open World.Call

variable {σ : Type} {M : Monitor World} {g : M.State}

/-- The service is asked for a new flow. An address without a scheme cannot be asked. -/
def Request.asksForFlow (r : Request) : Bool :=
  r.method == "POST" && r.path == "/flows/" && !r.url.scheme.isEmpty

theorem Request.not_asksForFlow_of_plain {r : Request} (h : Plain (.send r)) :
    r.asksForFlow = false := by
  rw [Bool.eq_false_iff]
  simp only [asksForFlow, ne_eq, Bool.and_eq_true, beq_iff_eq]
  rintro ⟨hpost, -⟩
  exact h hpost

theorem Request.scheme_ne_nil_of_asksForFlow {r : Request} (h : r.asksForFlow = true) :
    r.url.scheme ≠ [] := by
  simp only [asksForFlow, Bool.and_eq_true, Bool.not_eq_true', List.isEmpty_eq_false_iff] at h
  exact h.2

namespace Client

variable {c : Client} {method path : String} {revision : Option String} {content : Content}
  {r : Request}

variable (c) in
/-- The service was reached at an address that says how to get there. -/
def HasKind : Prop :=
  ∃ u v pairs, Url.join c.base "/flows/" = .ok u ∧ u.withQuery pairs = .ok v ∧
    v.checkKind = .ok ()

theorem base_scheme_ne_nil (hpath : ∃ cs, path.toList = '/' :: cs)
    (hr : c.request method path none revision content = .ok r) (h : r.url.scheme ≠ []) :
    c.base.scheme ≠ [] := by
  obtain ⟨_, hpath⟩ := hpath
  obtain ⟨-, -, u, hu, hurl⟩ := request_eq_ok hr
  rw [hurl, Url.scheme_join hpath hu] at h
  exact fun hbase => h (by rw [hbase, List.map_nil])

/-- With a scheme, the address of every path says how to get there. -/
theorem HasKind.checkKind (h : c.HasKind) (hbase : c.base.scheme ≠ [])
    (hpath : ∃ cs, path.toList = '/' :: cs)
    (hr : c.request method path none revision content = .ok r) : r.url.checkKind = .ok () := by
  obtain ⟨u, v, pairs, hu, hv, hkind⟩ := h
  obtain ⟨-, -, u', hu', hurl⟩ := request_eq_ok hr
  have hscheme : u'.scheme ≠ [] := by
    obtain ⟨_, hpath⟩ := hpath
    rw [Url.scheme_join hpath hu']
    exact fun hnil => hbase (List.map_eq_nil_iff.mp hnil)
  rw [hurl]
  exact Url.checkKind_of_join ⟨_, rfl⟩ hpath hu hv hu' hscheme hkind

theorem holds_ping (hM : M.Discreet) (hg : M.Keeps Plain g) :
    (c.ping : Task σ Unit).Holds M (fun s r => s = g ∧ (r = .ok () → c.HasKind)) g := by
  have hannounced : M.allows g (announcement "GET" "/flows/") ∧
      M.next g (announcement "GET" "/flows/") = g := hg (.log _ _) () trivial
  rw [ping]
  refine (holds_send (Q := fun s r => s = g ∧ ∀ v, r = .ok v → c.HasKind) hM.toAttentive
    hannounced.1 ?_ ?_).bind ?_ ?_
  · rintro e -
    refine ⟨hannounced.2, ?_⟩
    rintro _ ⟨⟩
  · intro r reply hr
    obtain ⟨hmethod, -, u, hu, hurl⟩ := request_eq_ok hr
    have hsent : M.allows g ⟨.send r, reply⟩ ∧ M.next g ⟨.send r, reply⟩ = g := by
      refine hg _ _ ?_
      rw [Plain, hmethod]
      simp
    rw [hannounced.2]
    exact ⟨hsent.1, hsent.2, fun v hv => ⟨u, r.url, _, hu, hurl, checkKind_of_resultOf hv⟩⟩
  · rintro s v ⟨rfl, hv⟩
    exact .pure ⟨rfl, fun _ => hv v rfl⟩
  · rintro s e ⟨rfl, -⟩
    refine ⟨rfl, ?_⟩
    rintro ⟨⟩

end Client

namespace Creator

variable {k : Creator} {f : Flow} {P : M.State → Except Failure Json → Prop}
  {Q : M.State → Except Failure BuildResult → Prop}

theorem holds_fail (hM : M.Discreet) {r : BuildResult} {e : Failure} (h : ∀ s, Q g s) :
    (fail r e).Holds M Q g := by
  rw [fail]
  split
  · exact .throw (h _)
  · exact .log_bind hM (.pure (h _))

theorem ensures_fail (r : BuildResult) (e : Failure) :
    (fail r e).Ensures fun x res => x = [] ∧ ∀ result, res = .ok result →
      result.success = r.success := by
  rw [fail]
  split
  · refine .throw ⟨rfl, ?_⟩
    rintro result ⟨⟩
  · refine .quiet_bind fun _ => .pure ⟨rfl, ?_⟩
    rintro _ ⟨rfl⟩
    rfl

/-- The check of the service may be made several times, and nothing comes of it but its answer. -/
theorem holds_check (hM : M.Discreet) (hg : M.Keeps Plain g) (label : String) (attempts : Int) :
    (call k.client.ping label attempts).Holds M
      (fun s r => s = g ∧ (r = .ok () → k.client.HasKind)) g := by
  refine Task.Holds.retry (A := fun s => s = g)
    (P := fun s r => s = g ∧ (r = .ok () → k.client.HasKind)) hM ?_ ?_ ?_ ?_ ?_ rfl
  · rintro _ rfl
    exact Client.holds_ping hM hg
  · exact fun s _ h => h
  · exact fun s f h _ => h.1
  · rintro s f note ⟨hs, -⟩
    refine ⟨hs, ?_⟩
    rintro ⟨⟩
  · rintro s f e n ⟨hs, -⟩ - - - -
    refine ⟨hs, ?_⟩
    rintro ⟨⟩

/-- What a build comes to if it ends before the creation, at the creation or after it. -/
theorem holds_build (hM : M.Discreet) (hg : M.Keeps Plain g) (hloop : M.mayLoop g)
    (hearly : ∀ r, Q g r)
    (hcreate : k.client.HasKind → ∀ creation, (k.create creation).Holds M P g)
    (hfail : ∀ s e r, P s (.error e) → (fail r e).Holds M Q s)
    (hcomplete : ∀ s flowId r prepared, P s (.ok flowId) → r.errors = [] →
      (∃ ordered, f.traverse = .ok ordered) → (k.complete f r prepared flowId).Holds M Q s) :
    (k.build f).Holds M Q g := by
  rw [build]
  refine .log_bind hM ?_
  cases Payload.checkCapabilities f with
  | error e => exact holds_fail hM hearly
  | ok =>
    refine Task.Holds.result_bind (holds_check hM hg _ _) ?_
    rintro g (e | ⟨⟩) ⟨rfl, hkind⟩
    · dsimp only
      split
      · exact holds_fail hM hearly
      · exact .log_bind hM (.pure (hearly _))
    · cases htraverse : f.traverse with
      | error e =>
        have hprecreate : k.precreate f = throw e := by
          rw [precreate, htraverse]
          rfl
        rw [hprecreate]
        refine Task.Holds.result_bind (Q := fun s r => s = g ∧ r = .error e)
          (.throw ⟨rfl, rfl⟩) ?_
        rintro _ _ ⟨rfl, rfl⟩
        exact holds_fail hM hearly
      | ok ordered =>
        refine (k.plain_precreate f).kept_result_bind hg hloop ?_
        rintro (e | prepared)
        · exact holds_fail hM hearly
        · refine (k.plain_payload f _).kept_result_bind hg hloop ?_
          rintro (e | creation)
          · exact holds_fail hM hearly
          · refine (hcreate (hkind rfl) creation).result_bind ?_
            rintro s (e | flowId) hs
            · exact hfail s e _ hs
            · exact hcomplete s flowId _ prepared hs rfl ⟨ordered, htraverse⟩

/-- A result as long as there is no flow. -/
def unfinished (f : Flow) (warnings : List String) (templates : Nat) : BuildResult :=
  { BuildResult.start .api f with
    warnings := warnings
    templatesApplied := templates }

theorem yields_fail {r : BuildResult} {e : Failure}
    {C : List Exchange → Except Failure BuildResult → Prop}
    (h : ∀ message, C [] (.ok (refuse r message e))) : (fail r e).Yields C := by
  rw [fail]
  split
  · rename_i he
    exact .accident (by simpa using he)
  · exact .quiet_bind fun _ => Task.Yields.pure (h _)

/-- The stages of a build and what is exchanged in them: `E` holds of the exchanges as long as there
is no flow, also if its creation fails, and `Creates` of those that end with a flow. -/
theorem yields_build_of_stages {E : List Exchange → Prop} {Prepares : Precreation → Prop}
    {Compiles : Precreation → Payload.Creation → Prop} {Creates : List Exchange → Json → Prop}
    {C : List Exchange → Except Failure BuildResult → Prop} (hnil : E [])
    (happend : ∀ {x y}, E x → E y → E (x ++ y))
    (hcheck : ∀ label attempts, (call k.client.ping label attempts).Ensures fun x _ => E x)
    (hprecreate : (k.precreate f).Ensures fun x r => E x ∧ ∀ p, r = .ok p → Prepares p)
    (hpayload : ∀ p : Precreation,
      (Payload.ofFlow f (some k.names) k.sender p.templateIds : Work _).Ensures fun x r =>
        E x ∧ ∀ c, r = .ok c → Compiles p c)
    (hcreate : ∀ c, (k.create c).Ensures fun x r =>
      (∀ flowId, r = .ok flowId → Creates x flowId) ∧ ∀ e, r = .error e → E x)
    (hearly : ∀ x warnings templates message e, E x →
      C x (.ok (refuse (unfinished f warnings templates) message e)))
    (hcomplete : ∀ x y p c flowId, E x → Prepares p → Compiles p c → Creates y flowId →
      (k.complete f (unfinished f (p.warnings ++ c.warnings) p.applied) p flowId).Yields
        fun z r => C (x ++ (y ++ z)) r) :
    (k.build f).Yields C := by
  rw [build]
  refine .quiet_bind fun _ => ?_
  split
  · exact yields_fail fun message => hearly [] [] 0 message _ hnil
  · refine Task.Ensures.result_bind (hcheck _ _) ?_
    rintro x₁ (e | _) h₁
    · have hend := fun message => hearly (x₁ ++ []) [] 0 message e (happend h₁ hnil)
      dsimp only
      split
      · exact yields_fail hend
      · exact .quiet_bind fun _ => Task.Yields.pure (hend _)
    · refine Task.Ensures.result_bind hprecreate ?_
      rintro x₂ (e | p) ⟨h₂, hp⟩
      · exact yields_fail fun message => hearly _ [] 0 message e (happend h₁ (happend h₂ hnil))
      · refine Task.Ensures.result_bind (hpayload p) ?_
        rintro x₃ (e | c) ⟨h₃, hc⟩
        · exact yields_fail fun message =>
            hearly _ p.warnings p.applied message e (happend h₁ (happend h₂ (happend h₃ hnil)))
        · refine Task.Ensures.result_bind (hcreate c) ?_
          rintro x₄ (e | flowId) ⟨hcreates, hrefused⟩
          · exact yields_fail fun message => hearly _ (p.warnings ++ c.warnings) p.applied message e
              (happend h₁ (happend h₂ (happend h₃ (happend (hrefused e rfl) hnil))))
          · have hx := happend h₁ (happend h₂ h₃)
            refine (hcomplete _ x₄ p c flowId hx (hp p rfl) (hc c rfl) (hcreates flowId rfl)).mono
              fun z r _ h => ?_
            simpa only [List.append_assoc] using h

/-- What a build comes to after the creation: the content pass decides whether there is a result,
and the result is a success in any case. -/
theorem holds_complete (hM : M.Discreet) {f : Flow} {r : BuildResult} {prepared : Precreation}
    {flowId : Json} {K : M.State → Prop}
    (hpass : ∀ url pending, (complete.pass k f flowId url pending).Holds M (fun s outcome =>
      match outcome with
      | .ok _ => K s
      | .error e => Q s (.error e)) g)
    (hdone : ∀ s result, K s → result.success = true → result.flowId = flowId →
      result.errors = r.errors → Q s (.ok result))
    (hg : K g) : (k.complete f r prepared flowId).Holds M Q g := by
  rw [complete]
  dsimp only
  split
  · refine (hpass _ _).bind (fun s outcome hs => ?_) fun s e h => h
    exact .get_bind fun _ => .log_bind hM (.pure (hdone s _ hs rfl rfl rfl))
  · refine .pure_bind (.get_bind fun _ => .log_bind hM (.pure ?_))
    exact hdone g _ hg rfl rfl rfl

/-- The pages without a template. -/
def Precreation.pending (prepared : Precreation) : Members :=
  prepared.pages.filter fun page => !Members.has prepared.templateIds page.1

/-- The result of a build, given what the content pass came to and how many images there are. -/
def completed (f : Flow) (r : BuildResult) (prepared : Precreation) (flowId : Json)
    (outcome : Nat × List String) (images : Nat) : BuildResult :=
  let templates := prepared.applied + outcome.1
  let settings := settingsSummary f
  let settings := if templates = 0 then settings else
    recordSetting settings "Email Content" (toString templates ++ " template(s) created")
  { r with
    success := true
    flowId := flowId
    flowUrl := if flowId.given then some (flowUrl flowId) else none
    actionsCreated := f.actions.length
    warnings := r.warnings ++ outcome.2
    settingsApplied := if images = 0 then settings else
      recordSetting settings "Images Uploaded" (toString images ++ " image(s)")
    templatesApplied := templates
    imagesUploaded := images
    templateIds := prepared.templateIds }

section

variable {r : BuildResult} {prepared : Precreation} {flowId : Json}

/-- Every result that a completion gives has this form. -/
theorem ensures_complete :
    (k.complete f r prepared flowId).Ensures fun _ res => ∀ result, res = .ok result →
      ∃ outcome images, result = completed f r prepared flowId outcome images := by
  rw [complete]
  dsimp only
  split
  · refine (Task.ensures_anything _).bind ?_ ?_
    · rintro _ outcome -
      refine .get_bind fun s => .quiet_bind fun _ => .pure ?_
      rintro _ ⟨rfl⟩
      exact ⟨outcome, _, rfl⟩
    · rintro _ e - result ⟨⟩
  · rw [pure_bind]
    refine .get_bind fun s => .quiet_bind fun _ => .pure ?_
    rintro _ ⟨rfl⟩
    exact ⟨_, _, rfl⟩

/-- A completion gives a result as far as its content pass does; what is asked for is asked for
there. -/
theorem yields_completed {C : List Exchange → Nat × List String → Prop}
    (hpass : ∀ url, (complete.pass k f flowId url prepared.pending).Yields fun x res =>
      ∃ outcome, res = .ok outcome ∧ C x outcome)
    (hnone : (flowId.given && !prepared.pending.isEmpty) = false → C [] (0, [])) :
    (k.complete f r prepared flowId).Yields fun x res => ∃ outcome images,
      res = .ok (completed f r prepared flowId outcome images) ∧ C x outcome := by
  rw [complete]
  dsimp only
  split
  · refine (hpass _).bind ?_ ?_
    · rintro x _ ⟨outcome, ⟨rfl⟩, hx⟩
      refine Task.Ensures.get_bind fun s => .quiet_bind fun _ => .pure fun _ => ?_
      refine ⟨_, s.hosted.length, rfl, ?_⟩
      rwa [List.append_nil]
    · rintro x e - ⟨outcome, ⟨⟩, -⟩
  · rename_i hskipped
    rw [pure_bind]
    refine Task.Ensures.get_bind fun s => .quiet_bind fun _ => .pure fun _ => ?_
    exact ⟨_, s.hosted.length, rfl, hnone (Bool.eq_false_iff.mpr hskipped)⟩

end

/-- What every completed result fulfils, every success does. -/
theorem ensures_build_success {S : BuildResult → Prop}
    (hcomplete : ∀ r prepared flowId, (k.complete f r prepared flowId).Ensures fun _ res =>
      ∀ result, res = .ok result → S result) :
    (k.build f).Ensures fun _ res => ∀ result, res = .ok result → result.success = true →
      S result := by
  have hanything : ∀ {α : Type} (t : Work α),
      t.Ensures fun _ r => True ∧ ∀ a, r = .ok a → True :=
    fun t => (Task.ensures_anything t).mono fun _ _ _ => ⟨trivial, fun _ _ => trivial⟩
  have hcreate : ∀ c, (k.create c).Ensures fun _ r =>
      (∀ flowId, r = .ok flowId → True) ∧ ∀ e, r = .error e → True :=
    fun c => (Task.ensures_anything _).mono fun _ _ _ => ⟨fun _ _ => trivial, fun _ _ => trivial⟩
  have hyields : (k.build f).Yields fun _ res => ∀ result, res = .ok result →
      result.success = true → S result := by
    refine yields_build_of_stages (E := fun _ => True) trivial (fun _ _ => trivial)
      (fun _ _ => Task.ensures_anything _) (hanything _) (fun _ => hanything _) hcreate ?_ ?_
    · rintro x warnings templates message e - _ ⟨rfl⟩ ⟨⟩
    · intro x y p c flowId _ _ _ _
      exact (hcomplete _ p flowId).yields.mono fun _ _ _ h result hres _ => h result hres
  refine Task.Ensures.mono hyields fun _ res h result hres => h ?_ result hres
  rintro e rfl
  cases hres

end Creator

/-! ## A build where everything works out -/

/-- A flow that greets the members of a list after a while. -/
def Flow.greeting : Flow :=
  { name := .str "A"
    trigger := some (.list .null (.str "L1"))
    actions := [⟨"a", .delay ⟨.null, .null, .null⟩⟩]
    entry := .str "a"
    profileFilter := none
    settings := some ⟨.null, .null, some (.policy "once" .null .null)⟩
    tags := [] }

theorem Flow.traverse_greeting : greeting.traverse = .ok greeting.actions := by
  cbv

/-- A client of a service at a short address. -/
def Client.nearby : Client :=
  ⟨"https://a.b", ⟨"https".toList, [], "a.b".toList, none, ['/'], none, none⟩, "k", "r"⟩

def Creator.nearby : Creator :=
  ⟨.nearby, ⟨.str "noreply@example.com", .str "Store"⟩, 3, .int 0, .int 0⟩

/-- An outside where the service creates what it is asked for and every step succeeds. -/
def World.smooth : (c : World.Call) → World.Answer c
  | .send r =>
    Reply.answer 201 (if r.method = "GET" then "" else "\x7b\"data\":\x7b\"id\":\"F1\"\x7d\x7d")
  | .connect _ => ()
  | .sleep _ => ()
  | .log _ _ => ()
  | .openSession => (.ok () : Except Failure Unit)
  | .closeSession _ => (.ok () : Except Failure Unit)
  | .perform _ => (.ok () : Except Failure Unit)
  | .screenshot _ => (.ok .null : Except Failure Json)
  | .openFlow _ => (.ok () : Except Failure Unit)
  | .currentFlow => Json.null
  | .workingDirectory => "/"
  | .look _ => Path.Found.nothing
  | .fileBytes _ => ByteArray.empty
  | .lookUp _ => none
  | .clock => (0 : Float)
  | .keepJournal _ => ()
  | .print _ _ => ()

end MarketingFlow
