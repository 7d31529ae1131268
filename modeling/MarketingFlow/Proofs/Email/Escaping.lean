import MarketingFlow.Email.Page
import MarketingFlow.Proofs.Outcome

/-!
# Escaped texts in pages

An escaped text brings no quotation mark into a page, and the label of a button no sign of markup
either. So the pages of two contents that differ in such texts only have the same number of them:
whatever the text is, it ends neither the attribute nor the element it stands in.
-/

namespace MarketingFlow

open Outcome

namespace Text

/-- How often a character stands in a text. -/
def occurrences (c : Char) (s : String) : Nat :=
  s.toList.count c

variable {c : Char}

@[simp] theorem occurrences_append (s t : String) :
    occurrences c (s ++ t) = occurrences c s + occurrences c t := by
  simp [occurrences]

theorem occurrences_eq_zero_iff {s : String} : occurrences c s = 0 ↔ c ∉ s.toList :=
  List.count_eq_zero

theorem occurrences_join {ss ts : List String}
    (h : List.Forall₂ (fun s t => occurrences c s = occurrences c t) ss ts) :
    occurrences c (String.join ss) = occurrences c (String.join ts) := by
  induction h with
  | nil => rfl
  | cons hst _ ih =>
    rw [String.join_cons, String.join_cons, occurrences_append, occurrences_append, hst, ih]

/-- A character that gives way does not come back with what it gives way to. -/
theorem notMem_replaceChars {swap : Char → Option String} (hc : swap c ≠ none)
    (hswap : ∀ d t, swap d = some t → c ∉ t.toList) (s : String) :
    c ∉ (replaceChars swap s).toList := by
  simp only [replaceChars, String.toList_ofList, List.mem_flatMap, not_exists, not_and]
  intro d _
  cases hd : swap d with
  | some t => exact hswap d t hd
  | none =>
    rw [List.mem_singleton]
    rintro rfl
    exact hc hd

end Text

namespace Email

open Text

/-- The characters that begin and end what is markup. -/
def markupSigns : List Char :=
  ['<', '>', '\'', '"']

/-- The members of a section that are escaped in its row. -/
def escapedKeys (type : Json) : List String :=
  match type with
  | .str "image" => ["src", "alt", "link"]
  | .str "button" => ["url", "text"]
  | _ => []

/-- The label of a button is the one member that is escaped as markup. -/
def labelKeys (type : Json) : List String :=
  match type with
  | .str "button" => ["text"]
  | _ => []

theorem labelKeys_subset (type : Json) : labelKeys type ⊆ escapedKeys type := by
  unfold labelKeys escapedKeys
  split <;> simp

theorem eq_text_of_mem_labelKeys {type : Json} {key : String} (h : key ∈ labelKeys type) :
    key = "text" := by
  unfold labelKeys at h
  split at h
  · exact List.mem_singleton.mp h
  · cases h

/-- What two sections have under a key: the same, or two texts if it is one of `keys`. An empty
link is none, so two texts of a link are not empty. -/
inductive MemberVaries (keys : List String) (key : String) : Option Json → Option Json → Prop
  | same (v : Option Json) : MemberVaries keys key v v
  | texts {s t : String} (hkey : key ∈ keys) (hlink : key = "link" → s ≠ "" ∧ t ≠ "") :
      MemberVaries keys key (some (.str s)) (some (.str t))

def MembersVary (keys : List String) (ms ns : Members) : Prop :=
  ∀ key, MemberVaries keys key (ms.find? key) (ns.find? key)

/-- Sections that differ only in texts under the keys that `keys` has for their type. -/
inductive SectionVaries (keys : Json → List String) : Json → Json → Prop
  | same (v : Json) : SectionVaries keys v v
  | members {ms ns : Members} (h : MembersVary (keys (ms.value "type")) ms ns) :
      SectionVaries keys (.obj ms) (.obj ns)

/-- Contents that differ only in such texts of their sections. -/
structure ContentVaries (keys : Json → List String) (content content' : Members) : Prop where
  rest : ∀ key, key ≠ "sections" → content.find? key = content'.find? key
  sections : content.find? "sections" = content'.find? "sections" ∨
    ∃ vs ws, content.find? "sections" = some (.arr vs) ∧
      content'.find? "sections" = some (.arr ws) ∧ List.Forall₂ (SectionVaries keys) vs ws

section

variable {c : Char}

theorem quote_notMem_escapeAttribute (s : String) : '"' ∉ (escapeAttribute s).toList := by
  refine notMem_replaceChars (by decide) (fun d t h => ?_) s
  split at h <;> cases h
  decide

theorem notMem_escapeMarkup (hc : c ∈ markupSigns) (s : String) :
    c ∉ (escapeMarkup s).toList := by
  simp only [markupSigns, List.mem_cons, List.not_mem_nil, or_false] at hc
  refine notMem_replaceChars ?_ (fun d t h => ?_) s
  · rcases hc with rfl | rfl | rfl | rfl <;> decide
  · split at h <;> cases h <;> rcases hc with rfl | rfl | rfl | rfl <;> decide

end

section

variable {c : Char} {keys : List String} {key : String} {ms ns : Members} {corners : Int}

theorem MemberVaries.eq_of_notMem {v w : Option Json} (h : MemberVaries keys key v w)
    (hkey : key ∉ keys) : v = w := by
  cases h with
  | same => rfl
  | texts hmem _ => exact absurd hmem hkey

theorem MemberVaries.occurrences_eq {v w : Option Json} {f : Option Json → String}
    {g : String → String} (h : MemberVaries keys key v w) (hf : ∀ s, f (some (.str s)) = s)
    (hg : key ∈ keys → ∀ s, c ∉ (g s).toList) :
    occurrences c (g (f v)) = occurrences c (g (f w)) := by
  cases h with
  | same => rfl
  | texts hkey _ =>
    -- Where the member may vary it is escaped, and then `c` stands in neither text.
    rw [hf, hf, occurrences_eq_zero_iff.mpr (hg hkey _), occurrences_eq_zero_iff.mpr (hg hkey _)]

theorem MemberVaries.given_eq {v w : Option Json} (h : MemberVaries keys "link" v w) :
    (v.getD .null).given = (w.getD .null).given := by
  cases h with
  | same => rfl
  | texts _ hlink =>
    obtain ⟨hs, ht⟩ := hlink rfl
    exact (Json.given_str.mpr hs).trans (Json.given_str.mpr ht).symm

theorem MembersVary.value_eq (h : MembersVary keys ms ns) (hkey : key ∉ keys) :
    ms.value key = ns.value key := by
  rw [Members.value, (h key).eq_of_notMem hkey, Members.value]

theorem MembersVary.find?_eq (h : MembersVary [] ms ns) : ms.find? = ns.find? :=
  funext fun key => (h key).eq_of_notMem List.not_mem_nil

theorem MembersVary.nil : MembersVary keys [] [] :=
  fun _ => .same none

theorem MembersVary.cons {v w : Json} (hv : MemberVaries keys key (some v) (some w))
    (h : MembersVary keys ms ns) : MembersVary keys ((key, v) :: ms) ((key, w) :: ns) := by
  intro key'
  simp only [Members.find?, List.lookup_cons]
  split
  · rename_i hkey
    rwa [eq_of_beq hkey]
  · exact h key'

theorem imageRow_occurrences (pageWidth : Json) (h : MembersVary keys ms ns)
    (hkeys : keys ⊆ ["src", "alt", "link"])
    (hattribute : ∀ key ∈ keys, ∀ s, c ∉ (escapeAttribute s).toList) :
    occurrences c (imageRow pageWidth ms) = occurrences c (imageRow pageWidth ns) := by
  have hwidth : ms.value "width" = ns.value "width" :=
    h.value_eq fun hmem => absurd (hkeys hmem) (by decide)
  have hsource : occurrences c (escapeAttribute ((ms.find? "src").getD (.str "")).text) =
      occurrences c (escapeAttribute ((ns.find? "src").getD (.str "")).text) :=
    (h "src").occurrences_eq (f := fun v => (v.getD (.str "")).text) (fun s => rfl)
      (hattribute "src")
  have halt : occurrences c (escapeAttribute ((ms.value "alt").orElse (.str "")).text) =
      occurrences c (escapeAttribute ((ns.value "alt").orElse (.str "")).text) := by
    refine (h "alt").occurrences_eq (f := fun v => ((v.getD .null).orElse (.str "")).text)
      (fun s => ?_) (hattribute "alt")
    by_cases hs : s = "" <;> simp [Json.orElse, hs]
  have hlink : occurrences c (escapeAttribute (ms.value "link").text) =
      occurrences c (escapeAttribute (ns.value "link").text) :=
    (h "link").occurrences_eq (f := fun v => (v.getD .null).text) (fun s => rfl)
      (hattribute "link")
  have hgiven : (ms.value "link").given = (ns.value "link").given := (h "link").given_eq
  -- The equation that rw and simp would make for a row of this length takes too long.
  unfold imageRow
  simp only [occurrences_append, hwidth, hgiven, hsource, halt]
  cases (ns.value "link").given with
  | true => simp only [if_true, occurrences_append, hlink]
  | false => simp only [Bool.false_eq_true, if_false]

theorem buttonRow_occurrences (h : MembersVary keys ms ns) (hkeys : keys ⊆ ["url", "text"])
    (hurl : "url" ∈ keys → ∀ s, c ∉ (escapeAttribute s).toList)
    (htext : "text" ∈ keys → ∀ s, c ∉ (escapeMarkup s).toList) {r : String}
    (hr : buttonRow ms corners = .ok r) :
    ∃ r', buttonRow ns corners = .ok r' ∧ occurrences c r = occurrences c r' := by
  have hvalue : ∀ key, key ∉ ["url", "text"] → ms.value key = ns.value key :=
    fun key hkey => h.value_eq fun hmem => hkey (hkeys hmem)
  have hpadding := hvalue "padding" (by decide)
  have hbackground := hvalue "background" (by decide)
  have hcolor := hvalue "color" (by decide)
  have hradius : cornerRadius ms = cornerRadius ns := by
    rw [cornerRadius, hvalue "border_radius" (by decide), cornerRadius]
  have hurl : occurrences c (escapeAttribute ((ms.find? "url").getD (.str "")).text) =
      occurrences c (escapeAttribute ((ns.find? "url").getD (.str "")).text) :=
    (h "url").occurrences_eq (f := fun v => (v.getD (.str "")).text) (fun s => rfl) hurl
  have htext : occurrences c (escapeMarkup ((ms.find? "text").getD (.str "")).text) =
      occurrences c (escapeMarkup ((ns.find? "text").getD (.str "")).text) :=
    (h "text").occurrences_eq (f := fun v => (v.getD (.str "")).text) (fun s => rfl) htext
  unfold buttonRow at hr ⊢
  obtain ⟨wider, hwider, hr⟩ := bind_eq_ok_iff.mp hr
  rw [hpadding] at hwider
  refine ⟨_, bind_eq_ok_iff.mpr ⟨wider, hwider, rfl⟩, ?_⟩
  obtain rfl := Except.ok.inj hr
  simp only [occurrences_append, hpadding, hbackground, hcolor, hradius, hurl, htext]

theorem textRow_eq (h : ms.find? = ns.find?) : textRow ms = textRow ns := by
  unfold textRow
  simp only [shown, Members.value, h]

theorem spacerRow_eq (h : ms.find? = ns.find?) : spacerRow ms = spacerRow ns := by
  unfold spacerRow
  simp only [Members.value, h]

end

section

variable {c : Char} {keys : Json → List String}

theorem escapedKeys_subset (type : Json) :
    escapedKeys type ⊆ ["src", "alt", "link", "url", "text"] := by
  unfold escapedKeys
  split <;> decide

/-- Only escaped members vary, and their escaping takes `c` out: it takes out all signs of markup
from labels, but only the quotation mark from other texts. -/
structure Hides (keys : Json → List String) (c : Char) : Prop where
  escaped : ∀ type, keys type ⊆ escapedKeys type
  sign : c ∈ markupSigns
  quote : ∀ type, ∀ key ∈ keys type, key ≠ "text" → c = '"'

theorem hides_quote : Hides escapedKeys '"' where
  escaped _ := List.Subset.refl _
  sign := by decide
  quote _ _ _ _ := rfl

theorem hides_sign (hc : c ∈ markupSigns) : Hides labelKeys c where
  escaped := labelKeys_subset
  sign := hc
  quote _ _ hkey hne := absurd (eq_text_of_mem_labelKeys hkey) hne

theorem Hides.notMem_escapeAttribute (hhides : Hides keys c) {type : Json} {key : String}
    (hkey : key ∈ keys type) (hne : key ≠ "text") (s : String) :
    c ∉ (escapeAttribute s).toList := by
  rw [hhides.quote type key hkey hne]
  exact quote_notMem_escapeAttribute s

/-- Sections read from such ones. The corners come from no text, so they are the same. -/
structure Section.Varies (keys : Json → List String) (s t : Section) : Prop where
  members : MembersVary (keys (s.members.value "type")) s.members t.members
  corners : s.corners = t.corners

theorem row_occurrences (hhides : Hides keys c) {pageWidth : Json} {s t : Section} {r : String}
    (h : s.Varies keys t) (hr : row pageWidth s = .ok r) :
    ∃ r', row pageWidth t = .ok r' ∧ occurrences c r = occurrences c r' := by
  obtain ⟨ms, corners⟩ := s
  obtain ⟨ns, _⟩ := t
  obtain ⟨h, rfl⟩ := h
  dsimp only at h
  have htype : ms.value "type" = ns.value "type" :=
    h.value_eq fun hmem => absurd (escapedKeys_subset _ (hhides.escaped _ hmem)) (by decide)
  unfold row at hr ⊢
  dsimp only at hr ⊢
  rw [← htype]
  generalize ms.value "type" = type at h hr ⊢
  have hkeys := hhides.escaped type
  split at hr
  · obtain rfl := Except.ok.inj hr
    refine ⟨_, rfl, imageRow_occurrences pageWidth h hkeys fun key hkey =>
      hhides.notMem_escapeAttribute hkey ?_⟩
    rintro rfl
    exact absurd (hkeys hkey) (by decide)
  · rw [List.subset_nil.mp hkeys] at h
    exact ⟨r, textRow_eq h.find?_eq ▸ hr, rfl⟩
  · exact buttonRow_occurrences h hkeys
      (fun hmem => hhides.notMem_escapeAttribute hmem (by decide))
      (fun _ => notMem_escapeMarkup hhides.sign) hr
  · rw [List.subset_nil.mp hkeys] at h
    exact ⟨r, spacerRow_eq h.find?_eq ▸ hr, rfl⟩
  · exact ⟨r, hr, rfl⟩

theorem readSection_obj_iff {ms : Members} {s : Section} :
    readSection (.obj ms) = .ok s ↔ s.members = ms ∧
      (if typeIs ms "button" then cornerPercent (cornerRadius ms) else .ok 0) = .ok s.corners := by
  obtain ⟨members, corners⟩ := s
  unfold readSection
  simp only [sectionMembers, pure_eq, ok_bind]
  split
  · rw [bind_eq_ok_iff]
    simp [and_comm, eq_comm]
  · simp [eq_comm]

theorem readSection_varies (hhides : Hides keys c) {v w : Json} (h : SectionVaries keys v w)
    {s : Section} (hs : readSection v = .ok s) : ∃ t, readSection w = .ok t ∧ s.Varies keys t := by
  cases h with
  | same => exact ⟨s, hs, fun key => .same _, rfl⟩
  | @members ms ns h =>
    have hvalue : ∀ key, key ∉ ["src", "alt", "link", "url", "text"] →
        ms.value key = ns.value key :=
      fun key hkey => h.value_eq fun hmem => hkey (escapedKeys_subset _ (hhides.escaped _ hmem))
    have htype : typeIs ms "button" = typeIs ns "button" := by
      rw [typeIs, hvalue "type" (by decide), typeIs]
    have hradius : cornerRadius ms = cornerRadius ns := by
      rw [cornerRadius, hvalue "border_radius" (by decide), cornerRadius]
    obtain ⟨rfl, hcorners⟩ := readSection_obj_iff.mp hs
    rw [htype, hradius] at hcorners
    exact ⟨⟨ns, s.corners⟩, readSection_obj_iff.mpr ⟨rfl, hcorners⟩, h, rfl⟩

theorem sectionsOf_varies {content content' : Members} (h : ContentVaries keys content content')
    {vs : List Json} (hvs : sectionsOf (.obj content) = .ok vs) :
    ∃ ws, sectionsOf (.obj content') = .ok ws ∧ List.Forall₂ (SectionVaries keys) vs ws := by
  have hsections : ∀ ms : Members, sectionsOf (.obj ms) =
      ((ms.value "sections").orElse (.arr [])).iterate := fun _ => rfl
  have harr : ∀ items : List Json, ((Json.arr items).orElse (.arr [])).iterate = .ok items := by
    intro items
    cases items <;> rfl
  rw [hsections, Members.value] at hvs ⊢
  rcases h.sections with heq | ⟨vs', ws, hvs', hws, hall⟩
  · exact ⟨vs, heq ▸ hvs, List.forall₂_same.mpr fun v _ => .same v⟩
  · rw [hvs', Option.getD_some, harr] at hvs
    cases hvs
    exact ⟨ws, by rw [hws, Option.getD_some, harr], hall⟩

theorem page_occurrences (hhides : Hides keys c) {content content' : Members} {p : String}
    (h : ContentVaries keys content content') (hp : page (.obj content) = .ok p) :
    ∃ p', page (.obj content') = .ok p' ∧ occurrences c p = occurrences c p' := by
  have hget : ∀ key, key ≠ "sections" →
      (Json.obj content).get key = (Json.obj content').get key := by
    intro key hkey
    simp only [Json.get, Json.members, ok_bind, Members.value, h.rest key hkey]
  unfold page at hp ⊢
  obtain ⟨vs, hvs, hp⟩ := bind_eq_ok_iff.mp hp
  obtain ⟨sections, hsections, hp⟩ := bind_eq_ok_iff.mp hp
  obtain ⟨width, hwidth, hp⟩ := bind_eq_ok_iff.mp hp
  obtain ⟨background, hbackground, hp⟩ := bind_eq_ok_iff.mp hp
  obtain ⟨rows, hrows, hp⟩ := bind_eq_ok_iff.mp hp
  -- The sections correspond one to one, and so do what is read of them and their rows.
  obtain ⟨ws, hws, hall⟩ := sectionsOf_varies h hvs
  obtain ⟨sections', hsections', hall⟩ :=
    exists_mapM_of_forall₂ (f := readSection) (fun _ _ h _ => readSection_varies hhides h) hall
      hsections
  obtain ⟨rows', hrows', hall⟩ :=
    exists_mapM_of_forall₂ (f := row _) (fun _ _ h _ => row_occurrences hhides h) hall hrows
  obtain rfl := Except.ok.inj hp
  rw [hget "width" (by decide)] at hwidth
  rw [hget "background_color" (by decide)] at hbackground
  refine ⟨_, bind_eq_ok_iff.mpr ⟨ws, hws, bind_eq_ok_iff.mpr ⟨sections', hsections',
    bind_eq_ok_iff.mpr ⟨width, hwidth, bind_eq_ok_iff.mpr ⟨background, hbackground,
    bind_eq_ok_iff.mpr ⟨rows', hrows', rfl⟩⟩⟩⟩⟩, ?_⟩
  simp only [occurrences_append, occurrences_join hall]

end

/-- Texts that are escaped neither open nor close anything: pages that differ in them only have
equally many quotation marks, and equally many signs of markup if only labels differ. -/
theorem escaped_texts_stay_inside {content content' : Members} {p : String}
    (h : ContentVaries escapedKeys content content') (hp : page (.obj content) = .ok p) :
    ∃ p', page (.obj content') = .ok p' ∧ occurrences '"' p = occurrences '"' p' ∧
      (ContentVaries labelKeys content content' →
        ∀ c ∈ ['<', '>', '\''], occurrences c p = occurrences c p') := by
  obtain ⟨p', hp', hquotes⟩ := page_occurrences hides_quote h hp
  refine ⟨p', hp', hquotes, fun hlabels c hc => ?_⟩
  have hsigns : c ∈ markupSigns := by
    simp only [markupSigns, List.mem_cons] at hc ⊢
    tauto
  obtain ⟨q, hq, hsame⟩ := page_occurrences (hides_sign hsigns) hlabels hp
  rw [hp'] at hq
  obtain rfl := Except.ok.inj hq
  exact hsame

/-- An image that is a link to itself. -/
def picture (source : String) : Members :=
  [("type", .str "image"), ("src", .str source), ("link", .str source)]

def button (label : String) : Members :=
  [("type", .str "button"), ("url", .str "/shop"), ("text", .str label)]

def leaflet (source label : String) : Members :=
  [("sections", .arr [.obj (picture source), .obj (button label)])]

theorem picture_varies {s t : String} (hs : s ≠ "") (ht : t ≠ "") :
    SectionVaries escapedKeys (.obj (picture s)) (.obj (picture t)) := by
  have hkeys : escapedKeys ((picture s).value "type") = ["src", "alt", "link"] := rfl
  refine .members ?_
  rw [hkeys]
  exact .cons (.same _) (.cons (.texts (by decide) fun _ => ⟨hs, ht⟩)
    (.cons (.texts (by decide) fun _ => ⟨hs, ht⟩) .nil))

theorem button_varies {keys : Json → List String} (hkeys : "text" ∈ keys (.str "button"))
    (s t : String) : SectionVaries keys (.obj (button s)) (.obj (button t)) :=
  .members (.cons (.same _) (.cons (.same _)
    (.cons (.texts hkeys fun h => absurd h (by decide)) .nil)))

theorem contentVaries_of_sections {keys : Json → List String} {vs ws : List Json}
    (h : List.Forall₂ (SectionVaries keys) vs ws) :
    ContentVaries keys [("sections", .arr vs)] [("sections", .arr ws)] where
  rest key hkey := by
    simp only [Members.find?, List.lookup_cons, beq_false_of_ne hkey]
  sections := .inr ⟨vs, ws, rfl, rfl, h⟩

theorem leaflet_keeps_its_markup : ∃ p q r,
    page (.obj (leaflet "a.png" "Go")) = .ok p ∧
      page (.obj (leaflet "\"><script>" "Go")) = .ok q ∧
      page (.obj (leaflet "a.png" "</a>'\"")) = .ok r ∧
      occurrences '"' p = occurrences '"' q ∧ occurrences '"' p = occurrences '"' r ∧
      ∀ c ∈ ['<', '>', '\''], occurrences c p = occurrences c r := by
  obtain ⟨p, hp, -⟩ := exists_ok_of_any (x := page (.obj (leaflet "a.png" "Go")))
    (q := fun _ => true) (by decide +kernel)
  have hsources : ContentVaries escapedKeys (leaflet "a.png" "Go") (leaflet "\"><script>" "Go") :=
    contentVaries_of_sections
      (.cons (picture_varies (by decide) (by decide)) (.cons (.same _) .nil))
  have hlabels : ∀ keys : Json → List String, "text" ∈ keys (.str "button") →
      ContentVaries keys (leaflet "a.png" "Go") (leaflet "a.png" "</a>'\"") := fun keys hkeys =>
    contentVaries_of_sections (.cons (.same _) (.cons (button_varies hkeys _ _) .nil))
  obtain ⟨q, hq, hquotes, -⟩ := escaped_texts_stay_inside hsources hp
  obtain ⟨r, hr, hquotes', hsigns⟩ :=
    escaped_texts_stay_inside (hlabels escapedKeys (by decide)) hp
  exact ⟨p, q, r, hp, hq, hr, hquotes, hquotes', hsigns (hlabels labelKeys (by decide))⟩

end Email

end MarketingFlow
