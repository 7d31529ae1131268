import MarketingFlow.Proofs.Service.Pages
import MarketingFlow.Proofs.Service.Stages

/-!
# The listings of metrics and lists

A listing is read page by page, each page at the stable revision, and says one thing of every item.
It is complete, or it comes to the failure of the first page that fails. An item without readable
attributes costs the listing, after all pages have come.
-/

namespace MarketingFlow

open Outcome

namespace Json

/-- The document of something with attributes. -/
def isNamed (v : Json) : Bool :=
  v.isObject && (v.member "attributes").isRecord

/-- What a listing says of it. -/
def entry (v : Json) : Json :=
  .obj [("id", v.member "id"), ("name", (v.member "attributes").member "name")]

end Json

namespace Client

variable {σ : Type} {c : Client} {path : String} {pages : List Page} {next : Json}

theorem entryOf_eq_ok_iff {v x : Json} : entryOf v = .ok x ↔ v.isNamed = true ∧ v.entry = x := by
  rw [entryOf, bind_eq_ok_iff, Json.isNamed, Bool.and_eq_true]
  constructor
  · rintro ⟨id, hid, h⟩
    obtain ⟨attributes, hattributes, h⟩ := bind_eq_ok_iff.mp h
    obtain ⟨name, hname, h⟩ := bind_eq_ok_iff.mp h
    cases h
    obtain ⟨hobject, rfl⟩ := Json.get_eq_ok_iff.mp hid
    obtain ⟨-, rfl⟩ := Json.get_eq_ok_iff.mp hattributes
    obtain ⟨hrecord, rfl⟩ := Json.get_orEmpty_eq_ok_iff.mp hname
    exact ⟨⟨hobject, hrecord⟩, rfl⟩
  · rintro ⟨⟨hobject, hrecord⟩, rfl⟩
    refine ⟨_, Json.get_eq_ok_iff.mpr ⟨hobject, rfl⟩, ?_⟩
    rw [Json.get_eq_ok_iff.mpr ⟨hobject, rfl⟩, ok_bind,
      Json.get_orEmpty_eq_ok_iff.mpr ⟨hrecord, rfl⟩, ok_bind]
    rfl

theorem mapM_entryOf {items : List Json} (h : ∀ v ∈ items, v.isNamed = true) :
    items.mapM entryOf = .ok (items.map Json.entry) := by
  induction items with
  | nil => rfl
  | cons v rest ih =>
    obtain ⟨hv, hrest⟩ := List.forall_mem_cons.mp h
    exact mapM_cons_eq_ok_iff.mpr ⟨_, _, entryOf_eq_ok_iff.mpr ⟨hv, rfl⟩, ih hrest, rfl⟩

section

variable (h : c.Follows (some stableRevision) (.str path) pages next)

include h

theorem Follows.head_eq : ∀ p ∈ pages,
    p.exchange.request.method = "GET" ∧ p.exchange.request.revision = stableRevision := by
  intro p hp
  obtain ⟨_, hget⟩ := h.get p hp
  exact ⟨(request_eq_ok hget.request).1, revision_of_request hget.request⟩

theorem Follows.may_listEntries (hpath : path ≠ "") (hnext : next.given = false) :
    (c.listEntries path : Task σ (List Json)).May (pages.map Page.exchange)
      ((pages.flatMap Page.items).mapM entryOf) := by
  rw [listEntries, ← List.append_nil (pages.map Page.exchange)]
  exact .bind (h.may_getAll hpath hnext) (.ofExcept _)

theorem Follows.may_listEntries_error (hpath : path ≠ "") (hnext : next.given = false) {p : Page}
    (hp : p ∈ pages) {v : Json} (hv : v ∈ p.items) (hunnamed : v.isNamed = false) :
    ∃ f, (c.listEntries path : Task σ (List Json)).May (pages.map Page.exchange) (.error f) := by
  have hmay := h.may_listEntries (σ := σ) hpath hnext
  cases hentries : (pages.flatMap Page.items).mapM entryOf with
  | ok entries =>
    obtain ⟨x, hx⟩ := mapM_eq_ok_iff.mp ⟨entries, hentries⟩ v (List.mem_flatMap.mpr ⟨p, hp, hv⟩)
    rw [(entryOf_eq_ok_iff.mp hx).1] at hunnamed
    cases hunnamed
  | error f => exact ⟨f, hentries ▸ hmay⟩

end

/-- How the task reads what the service hands out in pages from `path` on. -/
structure ReadsPages (c : Client) (path : String) (t : Task σ (List Json)) : Prop where
  /-- Each page is asked for once, in order, at the address that the one before names. -/
  requests : ∀ {pages next}, c.Follows (some stableRevision) (.str path) pages next →
    (∀ p ∈ pages,
      p.exchange.request.method = "GET" ∧ p.exchange.request.revision = stableRevision) ∧
    .str path :: pages.map Page.next =
      pages.map (fun p => .str p.exchange.request.path) ++ [next]
  /-- Of a chain that ends, it gives one entry for each item, in order. -/
  complete : ∀ {pages next}, c.Follows (some stableRevision) (.str path) pages next →
    next.given = false → (∀ p ∈ pages, ∀ v ∈ p.items, v.isNamed = true) →
    t.Amounts (pages.map Page.exchange) (.ok ((pages.flatMap Page.items).map Json.entry))
  /-- Of a chain whose next page fails, it gives the failure. -/
  failed : ∀ {pages address r reply f},
    c.Follows (some stableRevision) (.str path) pages (.str address) → address ≠ "" →
    c.request "GET" address none (some stableRevision) .empty = .ok r →
    r.url.checkKind = .ok () → StandsFor ("GET " ++ address) reply f →
    r.method = "GET" ∧ r.revision = stableRevision ∧
      t.Amounts (pages.map Page.exchange ++ [⟨r, reply⟩]) (.error f)

theorem readsPages_listEntries (hpath : path ≠ "") :
    c.ReadsPages path (c.listEntries path : Task σ (List Json)) where
  requests h := ⟨h.head_eq, h.addresses⟩
  complete h hnext hnamed := by
    have hmay := h.may_listEntries (σ := σ) hpath hnext
    rw [mapM_entryOf fun v hv => ?_] at hmay
    · exact hmay.amounts c.plain_listEntries
    · obtain ⟨p, hp, hv⟩ := List.mem_flatMap.mp hv
      exact hnamed p hp v hv
  failed h haddress hr hkind hf := by
    refine ⟨(request_eq_ok hr).1, revision_of_request hr, ?_⟩
    refine Task.May.amounts ?_ c.plain_listEntries
    exact .bind_error (h.may_getAll_error haddress hr hkind hf)

/-- Metrics and lists are read page by page. -/
theorem readsPages_listings (c : Client) :
    c.ReadsPages "/metrics/" (c.metrics : Task σ (List Json)) ∧
      c.ReadsPages "/lists/" (c.lists : Task σ (List Json)) :=
  ⟨readsPages_listEntries (by decide), readsPages_listEntries (by decide)⟩

/-! ## A listing in three pages -/

/-- A page that names a relative address. -/
def firstMetrics : String :=
  "\x7b\"data\":[\x7b\"id\":\"1\"\x7d],\"links\":\x7b\"next\":\"/b\"\x7d\x7d"

/-- A page without items that names an absolute address. -/
def moreMetrics : String :=
  "\x7b\"data\":null,\"links\":\x7b\"next\":\"https://a.b/c\"\x7d\x7d"

def lastMetrics : String :=
  "\x7b\"data\":[\x7b\"id\":\"2\"\x7d],\"links\":\x7b\"next\":null\x7d\x7d"

theorem readsPages_three : ∃ p₁ p₂ p₃ r next entries,
    nearby.Follows (some stableRevision) (.str "/metrics/") [p₁, p₂, p₃] next ∧
      (nearby.metrics : Task Unit (List Json)).Amounts
        [p₁.exchange, p₂.exchange, p₃.exchange] (.ok entries) ∧
      entries.map (fun v => (v.member "id").text) = ["1", "2"] ∧
      (nearby.metrics : Task Unit (List Json)).Amounts
        [p₁.exchange, p₂.exchange, ⟨r, .timeout "late"⟩]
        (.error (networkFailure "GET https://a.b/c timed out: late")) := by
  obtain ⟨p₁, h₁, -, hq₁⟩ := exists_gets nearby "/metrics/" none (some stableRevision)
    firstMetrics (fun p => p.shows ["1"] (some "/b") && p.items.all Json.isNamed) rfl rfl
    (by decide +kernel)
  obtain ⟨p₂, h₂, -, hq₂⟩ := exists_gets nearby "/b" none (some stableRevision)
    moreMetrics (fun p => p.shows [] (some "https://a.b/c") && p.items.all Json.isNamed) rfl rfl
    (by decide +kernel)
  obtain ⟨p₃, h₃, -, hq₃⟩ := exists_gets nearby "https://a.b/c" none (some stableRevision)
    lastMetrics (fun p => p.shows ["2"] none && p.items.all Json.isNamed) rfl rfl
    (by decide +kernel)
  simp only [Bool.and_eq_true, List.all_eq_true] at hq₁ hq₂ hq₃
  obtain ⟨⟨hids₁, hnext₁⟩, hnamed₁⟩ := hq₁.imp_left Page.shows_some
  obtain ⟨⟨hids₂, hnext₂⟩, hnamed₂⟩ := hq₂.imp_left Page.shows_some
  obtain ⟨⟨hids₃, hnext₃⟩, hnamed₃⟩ := hq₃.imp_left Page.shows_none
  have hfirst : nearby.Follows (some stableRevision) (.str "/metrics/") [p₁, p₂]
      (.str "https://a.b/c") := by
    refine .cons (by decide) h₁ (hnext₁ ▸ ?_)
    exact .cons (by decide) h₂ (hnext₂ ▸ .nil _)
  have hall := hfirst.append (.cons (by decide) h₃ (.nil p₃.next))
  have hnamed : ∀ p ∈ [p₁, p₂, p₃], ∀ v ∈ p.items, v.isNamed = true := by
    simp only [List.mem_cons, List.not_mem_nil, or_false]
    rintro p (rfl | rfl | rfl)
    · exact hnamed₁
    · exact hnamed₂
    · exact hnamed₃
  have hreads := (readsPages_listings (σ := Unit) nearby).1
  refine ⟨p₁, p₂, p₃, _, p₃.next, _, hall, hreads.complete hall hnext₃ hnamed, ?_,
    (hreads.failed hfirst (by decide) rfl rfl (.timeout "late")).2.2⟩
  have hids : ∀ items : List Json, (items.map Json.entry).map (fun v => (v.member "id").text) =
      items.map fun v => (v.member "id").text := fun items => List.map_map
  rw [hids]
  simp [hids₁, hids₂, hids₃]

/-- A page with a metric whose attributes are a text. -/
def strayMetrics : String :=
  "\x7b\"data\":[\x7b\"id\":\"1\",\"attributes\":\"x\"\x7d]\x7d"

/-- It is an object, but there is no listing of it. -/
theorem metrics_stray : ∃ p f,
    nearby.Follows (some stableRevision) (.str "/metrics/") [p] p.next ∧
      p.exchange.reply = .answer 200 strayMetrics ∧ p.next.given = false ∧
      (∀ v ∈ p.items, v.isObject = true) ∧
      (nearby.metrics : Task Unit (List Json)).Amounts [p.exchange] (.error f) ∧
      ∀ entries, ¬ (nearby.metrics : Task Unit (List Json)).Amounts [p.exchange]
        (.ok entries) := by
  obtain ⟨p, h, hexchange, hq⟩ := exists_gets nearby "/metrics/" none (some stableRevision)
    strayMetrics (fun p => p.shows ["1"] none && p.items.all Json.isObject &&
      p.items.any (!·.isNamed)) rfl rfl (by decide +kernel)
  simp only [Bool.and_eq_true, List.all_eq_true, List.any_eq_true, Bool.not_eq_true'] at hq
  obtain ⟨⟨hshows, hobject⟩, v, hv, hunnamed⟩ := hq
  have hnext := (Page.shows_none hshows).2
  have hchain : nearby.Follows (some stableRevision) (.str "/metrics/") [p] p.next :=
    .cons (by decide) h (.nil p.next)
  obtain ⟨f, hf⟩ := hchain.may_listEntries_error (σ := Unit) (by decide) hnext
    (List.mem_singleton_self p) hv hunnamed
  have hamounts := hf.amounts nearby.plain_listEntries
  refine ⟨p, f, hchain, by rw [hexchange], hnext, hobject, hamounts, fun entries hentries => ?_⟩
  cases hamounts.unique hentries

end Client

end MarketingFlow
