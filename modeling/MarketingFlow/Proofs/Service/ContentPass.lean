import MarketingFlow.Proofs.Service.Exchange

/-!
# The content pass

What the calls of the content pass come to, and from them what the pass comes to: it can fail only
in ways that are not foreseen, and only if a reply did not fit or a request was not sent.
-/

namespace MarketingFlow

open Account

variable {σ : Type} {id : String} {g : Option Account}

/-! ## Calls of the client -/

namespace Client

variable {c : Client} (hc : c.Reached)

include hc

theorem repeatable_flowActions (flowId : Json) :
    Repeatable (fun sound v => ∃ xs, v.iterate = .ok xs ∧
      (sound ↔ xs.all Json.isActionResource = true)) id
      (c.flowActions flowId : Task σ Json) := by
  rw [flowActions]
  refine (repeatable_send hc ?_ ?_ ?_).bind ?_
  · exact ⟨_, by simp only [String.toList_append]; rfl⟩
  · simp
  · exact .ok _
  · intro U g page hpage
    simp only [fitsCall_flowActions, Json.holdsActions, Bool.and_eq_true] at hpage
    refine holds_read (hpage.imp fun a ha hs => ?_) (fun _ => Failure.accident_of_get) ?_
    · exact ⟨_, Json.get_eq_ok_iff.mpr ⟨(ha.mp hs).1, rfl⟩⟩
    · intro data hdata
      obtain ⟨hobject, rfl⟩ := Json.get_eq_ok_iff.mp hdata
      simp only [hobject, true_and] at hpage
      refine holds_read (hpage.imp fun a ha hs => Json.size_of_areActions (ha.mp hs))
        (fun _ => Failure.accident_of_size) fun n hn => ?_
      refine .ignored_bind (ignores_debug ?_) fun _ => .pure ?_
      · exact ⟨'F', _, by simp only [String.toList_append]; rfl, by decide⟩
      · obtain ⟨xs, hxs, hall⟩ := Json.iterate_of_size hn
        refine ⟨hpage.imp fun a ha => ⟨xs, hxs, ha.trans hall⟩, ?_⟩
        rintro e ⟨⟩

/-- Only what is given can be no list of messages. -/
theorem repeatable_flowActionMessages (actionId : Json) :
    Repeatable (fun sound v => (sound ↔ v.areMessages = true) ∧
      (v.areMessages = true ∨ v.given = true)) id
      (c.flowActionMessages actionId : Task σ Json) := by
  rw [flowActionMessages]
  refine (repeatable_send hc ?_ ?_ ?_).bind ?_
  · exact ⟨_, by simp only [String.toList_append]; rfl⟩
  · simp
  · exact .ok _
  · intro U g page hpage
    simp only [fitsCall_flowActionMessages, Json.holdsMessages, Bool.and_eq_true] at hpage
    refine holds_read (hpage.imp fun a ha hs => ?_) (fun _ => Failure.accident_of_get) ?_
    · exact ⟨_, Json.get_eq_ok_iff.mpr ⟨(ha.mp hs).1, rfl⟩⟩
    · intro data hdata
      obtain ⟨hobject, rfl⟩ := Json.get_eq_ok_iff.mp hdata
      simp only [hobject, true_and] at hpage
      refine .pure ⟨hpage.imp fun a ha => ⟨ha, ?_⟩, ?_⟩
      · rw [Json.orNone, Json.orElse]
        split
        · exact .inr ‹_›
        · exact .inl rfl
      · rintro e ⟨⟩

theorem repeatable_createTemplate (name html : Json) :
    Repeatable (fun sound v => sound ∧ v.holdsRecord = true) id
      (c.createTemplate name html : Task σ Json) := by
  rw [createTemplate]
  refine .log_bind ?_
  refine (repeatable_send hc ⟨_, rfl⟩ (by simp) (Content.unforeseen_toBody_document _)).bind ?_
  intro U g created hcreated
  change Watched id (fun a => a.Sound ↔ created.holdsRecord = true) g at hcreated
  refine holds_read (hcreated.imp fun a ha hs => ?_) (fun _ => Failure.accident_of_get_get) ?_
  · exact Json.get_id_of_holdsRecord (ha.mp hs)
  · intro templateId hid
    obtain ⟨hobject, hdata, -⟩ := Json.get_get_eq_ok_iff.mp hid
    have hrecord : created.holdsRecord = true := Bool.and_eq_true_iff.mpr ⟨hobject, hdata⟩
    refine .log_bind discreet_monitor (.pure ⟨hcreated.imp fun a ha => ?_, ?_⟩)
    · exact ⟨ha.mpr hrecord, hrecord⟩
    · rintro e ⟨⟩

theorem repeatable_updateTemplate (templateId html name : Json) :
    Repeatable (fun sound _ => sound) id (c.updateTemplate templateId html name : Task σ Json) := by
  rw [updateTemplate]
  refine .log_bind ((repeatable_send hc ?_ ?_ ?_).imp ?_)
  · exact ⟨_, by simp only [String.toList_append]; rfl⟩
  · simp
  · exact Content.unforeseen_toBody_document _
  · exact fun sound answer h => h.mpr rfl

/-- A template, or none: the account is sound if and only if the template's editor can be told. -/
def Found (sound : Prop) (template : Json) : Prop :=
  template.isRecord = true ∧ (template.member "data").isRecord = true ∧
    (sound ↔ ((template.member "data").member "attributes").isRecord = true)

theorem holds_templateAt (messageId : Json) (revisions : List String) (hg : Watched id Sound g) :
    (c.templateAt messageId revisions : Task σ Json).Holds monitor (Settled Found id) g := by
  induction revisions generalizing g with
  | nil =>
    rw [templateAt]
    refine .ignored_bind (ignores_debug ?_) fun _ => .pure ?_
    · exact ⟨'N', _, by simp only [String.toList_append]; rfl, by decide⟩
    · exact hg.imp fun a ha => ⟨rfl, rfl, iff_of_true ha rfl⟩
  | cons revision rest ih =>
    rw [templateAt]
    refine Task.Holds.result_bind (holds_exchange hc ?_ ?_ ?_ hg.ready) ?_
    · exact ⟨_, by simp only [String.toList_append]; rfl⟩
    · simp
    · exact .ok _
    · rintro g (f | response) ⟨h, -⟩
      · dsimp only
        split
        · exact .throw h
        · rename_i kind hkind
          refine .ignored_bind (ignores_debug ?_) fun _ => ih (h.imp fun a ha => ha.mpr ?_)
          · exact ⟨'T', _, by simp only [String.toList_append]; rfl, by decide⟩
          · exact Failure.foreseen_of_remoteKind hkind
        · exact .throw h
      · change Watched id (fun a => a.Sound ↔ _) g at h
        rw [fitsCall_template] at h
        dsimp only
        refine holds_readOnce (h.imp fun a ha hs => ?_) (fun e he => ?_) ?_
        · obtain ⟨hrecord, -⟩ := Bool.and_eq_true_iff.mp (ha.mp hs)
          exact Json.get_id_of_holdsRecord hrecord
        · exact (Failure.accident_of_get_get he).1
        · intro templateId hid
          obtain ⟨hobject, hdata, rfl⟩ := Json.get_get_eq_ok_iff.mp hid
          have hrecord : response.holdsRecord = true := Bool.and_eq_true_iff.mpr ⟨hobject, hdata⟩
          simp only [Json.holdsTemplate, hrecord, Bool.true_and, Bool.or_eq_true] at h
          split
          · rename_i hgiven
            refine .ignored_bind (ignores_debug ?_) fun _ => .pure (h.imp fun a ha => ?_)
            · exact ⟨'G', _, by simp only [String.toList_append]; rfl, by decide⟩
            · refine ⟨?_, hdata, ha.trans ?_⟩
              · rw [Json.isRecord, hobject, Bool.true_or]
              · simp [hgiven]
          · rename_i hgiven
            refine ih (h.imp fun a ha => ha.mpr (.inl ?_))
            simpa using hgiven

end Client

/-! ## The content pass -/

namespace Creator

theorem unforeseen_firstOf (messages : Json) : Unforeseen (applyOne.firstOf messages) := by
  rw [applyOne.firstOf.eq_def]
  split
  · exact .ok _
  · exact .ok _
  · exact .ok _
  · split
    · exact .ok _
    · exact .error rfl
  · split
    · exact .error rfl
    · exact .ok _

theorem firstOf_of_areMessages {messages : Json} (h : messages.areMessages = true) :
    ∃ first, applyOne.firstOf messages = .ok first := by
  cases messages with
  | arr ms => cases ms <;> exact ⟨_, rfl⟩
  | str s => exact ⟨_, rfl⟩
  | _ => cases h

theorem areMessages_of_firstOf {messages first : Json}
    (h : messages.areMessages = true ∨ messages.given = true)
    (hfirst : applyOne.firstOf messages = .ok first) : messages.areMessages = true := by
  rcases h with h | hgiven
  · exact h
  · rw [applyOne.firstOf.eq_def] at hfirst
    split at hfirst
    · rfl
    · rfl
    · rfl
    · rename_i ms
      cases ms with
      | nil => cases hgiven
      | cons m ms => cases hfirst
    · rw [if_pos hgiven] at hfirst
      cases hfirst

theorem holds_giveUp (name : String) {f : Failure}
    (h : Watched id (fun a => a.Sound ↔ f.foreseen = true) g) :
    (applyEach.giveUp name f).Holds monitor (Settled (fun sound _ => sound) id) g := by
  rw [applyEach.giveUp]
  split
  · exact .throw h
  · rename_i hforeseen
    refine .log_bind discreet_monitor (.pure (h.imp fun a ha => ha.mpr ?_))
    simpa using hforeseen

theorem holds_pause_bind {α : Type} {k : Creator} {f : Unit → Work α}
    {Q : Option Account → Except Failure α → Prop} (hf : (f ()).Holds monitor Q g) :
    (k.pause >>= f).Holds monitor Q g := by
  rw [pause]
  split
  · exact .ignored_bind (discreet_monitor.sleep _) fun _ => hf
  · exact hf

variable {k : Creator} (hc : k.client.Reached)

include hc

theorem holds_update (name : String) (html templateId editor : Json) (hg : Watched id Sound g) :
    (applyOne.update k name html templateId editor).Holds monitor
      (Settled (fun sound _ => sound) id) g := by
  rw [applyOne.update]
  refine Task.Holds.result_bind
    ((Client.repeatable_updateTemplate hc templateId html .null).holds_call _ hg) ?_
  rintro g (f | answer) h
  · dsimp only
    split
    · rename_i hkind
      refine .log_bind discreet_monitor (.pure (h.imp fun a ha => ha.mpr ?_))
      exact Failure.foreseen_of_remoteKind hkind
    · exact .throw h
  · exact .log_bind discreet_monitor (.pure h)

/-- A template of its own for a page. -/
theorem holds_createApart {α : Type} (name html : Json) (label : String) (f : Json → α)
    (hg : Watched id Sound g) :
    (call (k.client.createTemplate name html) label 3 >>= fun created =>
      Task.ofExcept (createdId created) >>= fun newId => pure (f newId)).Holds monitor
        (Settled (fun sound _ => sound) id) g := by
  refine ((Client.repeatable_createTemplate hc _ _).holds_call _ hg).bind ?_ fun _ _ h => h
  intro g created h
  refine holds_readOnce (h.imp fun a ha _ => Json.get_id_of_holdsRecord ha.2)
    (fun e he => (Failure.accident_of_get_get he).1) fun newId _ => .pure (h.imp fun a ha => ha.1)

theorem holds_applyOne (name : String) (remoteId html : Json) (hg : Watched id Sound g) :
    (k.applyOne name remoteId html).Holds monitor (Settled (fun sound _ => sound) id) g := by
  rw [applyOne]
  refine ((Client.repeatable_flowActionMessages hc remoteId).holds_call _ hg).bind ?_ fun _ _ h => h
  intro g messages h
  refine holds_readOnce (h.imp fun a ha hs => firstOf_of_areMessages (ha.1.mp hs))
    (unforeseen_firstOf messages) fun first hfirst => ?_
  replace h : Watched id Sound g := h.imp fun a ha => ha.1.mpr (areMessages_of_firstOf ha.2 hfirst)
  change Task.Holds monitor (if (!(first.member "id").given) = true then _ else _) _ g
  split
  · exact .pure h
  · refine (Client.holds_templateAt hc _ _ h).bind ?_ fun _ _ h => h
    intro g template h
    refine holds_readOnce (h.imp fun a ha _ => ?_) (fun e he => (Failure.accident_of_get he).1)
      fun data hdata => ?_
    · exact ⟨_, Json.get_orEmpty_eq_ok_iff.mpr ⟨ha.1, rfl⟩⟩
    · obtain ⟨-, rfl⟩ := Json.get_orEmpty_eq_ok_iff.mp hdata
      dsimp only
      refine holds_readOnce (h.imp fun a ha _ => ?_) (fun e he => (Failure.accident_of_get he).1)
        fun templateId hid => ?_
      · exact ⟨_, Json.get_orEmpty_eq_ok_iff.mpr ⟨ha.2.1, rfl⟩⟩
      · obtain ⟨hobject, -⟩ := Json.get_eq_ok_iff.mp hid
        refine holds_readOnce (h.imp fun a ha hs => ?_)
          (fun e he => (Failure.accident_of_get_get he).1) fun editor heditor => ?_
        · refine ⟨_, Json.get_get_eq_ok_iff.mpr ⟨hobject, ?_, rfl⟩⟩
          rw [Json.member_orEmpty]
          exact ha.2.2.mp hs
        · obtain ⟨-, hattributes, -⟩ := Json.get_get_eq_ok_iff.mp heditor
          rw [Json.member_orEmpty] at hattributes
          replace h : Watched id Sound g := h.imp fun a ha => ha.2.2.mpr hattributes
          split
          · refine (holds_update hc _ _ _ _ h).bind ?_ fun _ _ h => h
            intro g updated h
            split
            · exact .pure h
            · exact holds_createApart hc _ _ _ _ h
          · exact holds_createApart hc _ _ _ _ h

theorem holds_applyEach (pages : Members) {pairs : List (Action × Json)}
    (hpairs : ∀ p ∈ pairs, p.2.isObject = true) (hg : Watched id Sound g) :
    (k.applyEach pages pairs).Holds monitor (Settled (fun sound _ => sound) id) g := by
  induction pairs generalizing g with
  | nil =>
    rw [applyEach]
    exact .pure hg
  | cons pair rest ih =>
    obtain ⟨hpair, hrest⟩ := List.forall_mem_cons.mp hpairs
    replace ih := fun {g} => ih (g := g) hrest
    have hend : ∀ {g} (here : Bool) (warnings : List String), Watched id Sound g →
        (k.pause >>= fun _ => k.applyEach pages rest >>= fun more =>
          pure ((if here then 1 else 0) + more.1, warnings ++ more.2)).Holds monitor
            (Settled (fun sound _ => sound) id) g :=
      fun _ _ hg => holds_pause_bind ((ih hg).bind (fun _ _ h => .pure h) fun _ _ h => h)
    rw [applyEach]
    dsimp only
    split
    · exact ih hg
    · refine holds_readOnce (hg.imp fun a _ _ => ⟨_, Json.get_eq_ok_iff.mpr ⟨hpair, rfl⟩⟩)
        (fun e he => (Failure.accident_of_get he).1) fun remoteId _ => ?_
      split
      · refine (ih hg).bind ?_ fun _ _ h => h
        rintro g ⟨applied, warnings⟩ h
        exact .pure h
      · refine Task.Holds.result_bind (holds_applyOne hc _ remoteId _ hg) ?_
        rintro g (f | outcome) h
        · refine (holds_giveUp _ h).bind ?_ fun _ _ h => h
          exact fun g outcome h => hend outcome.1 outcome.2 h
        · exact hend outcome.1 outcome.2 h

theorem holds_applyContent {f : Flow} (htraverse : ∃ ordered, f.traverse = .ok ordered)
    (flowId : Json) (pages : Members) (hg : Watched id Sound g) :
    (k.applyContent flowId f pages).Holds monitor (Settled (fun sound _ => sound) id) g := by
  obtain ⟨ordered, htraverse⟩ := htraverse
  have hrest : (call (k.client.flowActions flowId) "Fetch flow actions" 3 >>= fun remote => do
      let ordered ← Task.ofExcept f.traverse
      let resources ← Task.ofExcept remote.iterate
      let pairs ← Task.ofExcept (correlate ordered resources "send-email" isEmailResource)
      k.applyEach pages pairs).Holds monitor (Settled (fun sound _ => sound) id) g := by
    refine ((Client.repeatable_flowActions hc flowId).holds_call _ hg).bind ?_ fun _ _ h => h
    intro g remote h
    rw [htraverse]
    change Task.Holds monitor (Task.ofExcept remote.iterate >>= fun resources => _ >>= _) _ g
    refine holds_readOnce (h.imp fun a ha _ => ?_) ?_ fun resources hresources => ?_
    · obtain ⟨xs, hxs, -⟩ := ha
      exact ⟨xs, hxs⟩
    · exact Json.unforeseen_iterate remote
    · replace h : Watched id (fun a => a.Sound ↔ resources.all Json.isActionResource = true) g := by
        refine h.imp ?_
        rintro a ⟨xs, hxs, ha⟩
        rw [hresources] at hxs
        cases hxs
        exact ha
      refine holds_readOnce (h.imp fun a ha hs => Json.correlate_eq_ok_iff.mpr (ha.mp hs))
        Json.unforeseen_correlate fun pairs hpairs => ?_
      have hall := Json.correlate_eq_ok_iff.mp ⟨pairs, hpairs⟩
      refine holds_applyEach hc pages (fun p hp => ?_) (h.imp fun a ha => ha.mpr hall)
      have hresource := List.all_eq_true.mp hall _ (Json.mem_of_correlate hpairs p hp)
      simp only [Json.isActionResource, Bool.and_eq_true] at hresource
      exact hresource.1.1
  rw [applyContent]
  split
  · refine .log_bind discreet_monitor ?_
    exact .ignored_bind (discreet_monitor.sleep _) fun _ => hrest
  · exact hrest

theorem holds_pass {f : Flow} (htraverse : ∃ ordered, f.traverse = .ok ordered)
    (flowId : Json) (url : Option String) (pending : Members) (hg : Watched id Sound g) :
    (complete.pass k f flowId url pending).Holds monitor (fun g r => match r with
      | .ok _ => Watched id Sound g
      | .error e => Watched id (fun a => ¬ a.Sound) g ∧ e.foreseen = false) g := by
  rw [complete.pass]
  refine Task.Holds.result_bind (holds_applyContent hc htraverse flowId pending hg) ?_
  rintro g (e | outcome) h
  · replace h : Watched id (fun a => a.Sound ↔ e.foreseen = true) g := h
    dsimp only
    split
    · rename_i hforeseen
      rw [Bool.not_eq_true'] at hforeseen
      refine .throw ⟨h.imp fun a ha hs => ?_, hforeseen⟩
      rw [ha.mp hs] at hforeseen
      cases hforeseen
    · rename_i hforeseen
      refine .log_bind discreet_monitor (.pure (h.imp fun a ha => ha.mpr ?_))
      simpa using hforeseen
  · exact .pure h

end Creator

end MarketingFlow
