import MarketingFlow.Proofs.Service.Answers
import MarketingFlow.Proofs.Service.Documents

/-!
# Collections in pages

The service hands out a collection in pages, each of which names the address of the one after it.
`c.Follows revision address pages next` says that a client finds `pages` one after the other from
`address` on and that the last of them names `next`; it names nothing if that is the end. Reading
all of a collection takes one request for each page and gives the items of all of them; a page that
fails to come ends the reading with its failure.
-/

namespace MarketingFlow

open Outcome

namespace Json

def isArray : Json → Bool
  | arr _ => true
  | _ => false

/-- The document of one page of a collection. There may be no items, no links and no next page. -/
def isPage (v : Json) : Bool :=
  v.isObject && ((v.member "data").isArray || !(v.member "data").given) &&
    (v.member "links").isRecord

theorem orNone_of_isArray {v : Json} (h : (v.isArray || !v.given) = true) :
    v.orNone = .arr v.items := by
  rw [orNone, orElse]
  cases v with
  | arr xs => cases xs <;> rfl
  | _ =>
    simp only [isArray, Bool.false_or, Bool.not_eq_true'] at h
    rw [h]
    rfl

end Json

/-- One page as it was handed out. -/
structure Page where
  exchange : Exchange
  document : Json

namespace Page

def items (p : Page) : List Json :=
  (p.document.member "data").items

def next (p : Page) : Json :=
  (p.document.member "links").member "next"

/-- The page has items of these ids and names this address, if any. -/
def shows (ids : List String) (address : Option String) (p : Page) : Bool :=
  p.items.map (fun v => (v.member "id").text) == ids &&
    match address with
    | some a => p.next.isText && p.next.text == a
    | none => !p.next.given

theorem shows_some {p : Page} {ids : List String} {a : String}
    (h : p.shows ids (some a) = true) :
    p.items.map (fun v => (v.member "id").text) = ids ∧ p.next = .str a := by
  simp only [shows, Bool.and_eq_true, beq_iff_eq] at h
  obtain ⟨hids, htext, rfl⟩ := h
  obtain ⟨s, hs⟩ := Json.isText_iff.mp htext
  exact ⟨hids, by rw [hs, Json.text]⟩

theorem shows_none {p : Page} {ids : List String} (h : p.shows ids none = true) :
    p.items.map (fun v => (v.member "id").text) = ids ∧ p.next.given = false := by
  simpa [shows] using h

theorem orNone_data {p : Page} (h : p.document.isPage = true) :
    (p.document.member "data").orNone = .arr p.items := by
  simp only [Json.isPage, Bool.and_eq_true] at h
  exact Json.orNone_of_isArray h.1.2

theorem get_data {p : Page} (h : p.document.isPage = true) :
    p.document.get "data" = .ok (p.document.member "data") := by
  simp only [Json.isPage, Bool.and_eq_true] at h
  exact Json.get_eq_ok_iff.mpr ⟨h.1.1, rfl⟩

theorem readPage_eq {p : Page} (h : p.document.isPage = true) :
    Client.readPage p.document = .ok (p.items, p.next) := by
  have hlinks : (do (← p.document.get "links").orEmpty.get "next" : Except Failure Json) =
      .ok p.next := by
    simp only [Json.isPage, Bool.and_eq_true] at h
    exact Json.get_get_eq_ok_iff.mpr ⟨h.1.1, h.2, rfl⟩
  obtain ⟨links, hlinks, hnext⟩ := bind_eq_ok_iff.mp hlinks
  rw [Client.readPage, get_data h, ok_bind, orNone_data h, hlinks]
  simp [Json.iterate, hnext]

end Page

namespace Client

variable {σ : Type} {c : Client} {path address : String} {query : Option Query.Pairs}
  {revision : Option String} {p : Page} {pages : List Page} {start next : Json}

/-- The client gets the page when it asks for it at an address. -/
structure Gets (c : Client) (address : String) (query : Option Query.Pairs)
    (revision : Option String) (p : Page) : Prop where
  request : c.request "GET" address query revision .empty = .ok p.exchange.request
  kind : p.exchange.request.url.checkKind = .ok ()
  delivers : Delivers p.exchange.reply p.document
  isPage : p.document.isPage = true

theorem exists_gets (c : Client) (address : String) (query : Option Query.Pairs)
    (revision : Option String) (text : String) (q : Page → Bool) {r : Request}
    (hr : c.request "GET" address query revision .empty = .ok r)
    (hkind : r.url.checkKind = .ok ())
    (htext : ((readAnswer text).toOption.any fun v =>
      v.isPage && q ⟨⟨r, .answer 200 text⟩, v⟩) = true) :
    ∃ p, c.Gets address query revision p ∧ p.exchange = ⟨r, .answer 200 text⟩ ∧ q p = true := by
  obtain ⟨v, hv, hq⟩ := exists_delivers text _ htext
  obtain ⟨hpage, hq⟩ := Bool.and_eq_true_iff.mp hq
  exact ⟨⟨⟨r, .answer 200 text⟩, v⟩, ⟨hr, hkind, hv, hpage⟩, rfl, hq⟩

/-- From `start` on, the client gets `pages`, each at the address that the one before names; the
last one names `next`. -/
inductive Follows (c : Client) (revision : Option String) : Json → List Page → Json → Prop where
  | nil (next : Json) : Follows c revision next [] next
  | cons {address : String} {p : Page} {pages : List Page} {next : Json} (haddress : address ≠ "")
      (hp : c.Gets address none revision p) (h : Follows c revision p.next pages next) :
      Follows c revision (.str address) (p :: pages) next

theorem Gets.may_send (hp : c.Gets path query revision p) :
    (c.send "GET" path query revision .empty : Task σ Json).May [p.exchange] (.ok p.document) :=
  hp.delivers.may_send hp.request hp.kind

/-! ## The chain of pages -/

theorem Follows.append {more : List Page} {last : Json}
    (h : c.Follows revision start pages next) (hmore : c.Follows revision next more last) :
    c.Follows revision start (pages ++ more) last := by
  induction h with
  | nil => exact hmore
  | cons haddress hp _ ih => exact .cons haddress hp (ih hmore)

/-- Where something is left to be asked for, there was something to begin with. -/
theorem Follows.given (h : c.Follows revision start pages next) (hnext : next.given = true) :
    start.given = true := by
  cases h with
  | nil => exact hnext
  | cons haddress _ _ => exact Json.given_str.mpr haddress

theorem Follows.eq_nil (h : c.Follows revision start pages next) (hstart : start.given = false) :
    pages = [] := by
  cases h with
  | nil => rfl
  | cons haddress _ _ =>
    rw [Json.given_str.mpr haddress] at hstart
    cases hstart

theorem Follows.get (h : c.Follows revision start pages next) :
    ∀ p ∈ pages, ∃ address, c.Gets address none revision p := by
  induction h with
  | nil => simp
  | cons _ hp _ ih => exact List.forall_mem_cons.mpr ⟨⟨_, hp⟩, ih⟩

/-- What is asked for first and what the pages name are what is asked for, and what is left. -/
theorem Follows.addresses (h : c.Follows revision start pages next) :
    start :: pages.map Page.next =
      pages.map (fun p => .str p.exchange.request.path) ++ [next] := by
  induction h with
  | nil => rfl
  | cons _ hp _ ih =>
    rw [List.map_cons, ih, List.map_cons, List.cons_append, (request_eq_ok hp.request).2.1]

/-! ## Reading all of it -/

/-- One round: asks for the page that is next and adds its items. -/
def round (c : Client) (revision : Option String) :
    Json × List Json → Task σ ((Json × List Json) ⊕ List Json)
  | (address, items) => do
    let page ← c.getNamed address revision
    let (more, next) ← Task.ofExcept (readPage page)
    if next.given then return .inl (next, items ++ more)
    else return .inr (items ++ more)

theorem getAll_eq (c : Client) (path : String) (revision : Option String) :
    (c.getAll path revision : Task σ (List Json)) = Task.loop (c.round revision) (.str path, []) :=
  rfl

theorem Gets.may_round (hp : c.Gets address none revision p) (items : List Json) :
    (c.round revision (.str address, items) : Task σ _).May [p.exchange] (.ok
      (if p.next.given then .inl (p.next, items ++ p.items) else .inr (items ++ p.items))) := by
  rw [round]
  refine .bind (y := []) hp.may_send ?_
  rw [Page.readPage_eq hp.isPage]
  refine .bind (x := []) (.ofExcept _) ?_
  dsimp only
  split
  · exact .pure _
  · exact .pure _

theorem Follows.may_rounds (h : c.Follows revision start pages next) (hnext : next.given = true)
    {y : List Exchange} {r : Except Failure (List Json)} {items : List Json}
    (hrest : (Task.loop (c.round revision) (next, items ++ pages.flatMap Page.items) :
      Task σ _).May y r) :
    (Task.loop (c.round revision) (start, items) : Task σ _).May
      (pages.map Page.exchange ++ y) r := by
  -- On the chain, whatever was read before: something is left, so every page names a next one.
  induction h generalizing items with
  | nil => simpa using hrest
  | cons _ hp h ih =>
    have hround := hp.may_round (σ := σ) items
    rw [if_pos (h.given hnext)] at hround
    refine hround.loop_again (ih hnext ?_)
    rwa [List.flatMap_cons, ← List.append_assoc] at hrest

theorem Follows.may_all (h : c.Follows revision start pages next) (hnext : next.given = false)
    (hstart : start.given = true) (items : List Json) :
    (Task.loop (c.round revision) (start, items) : Task σ _).May
      (pages.map Page.exchange) (.ok (items ++ pages.flatMap Page.items)) := by
  induction h generalizing items with
  | nil =>
    rw [hnext] at hstart
    cases hstart
  | @cons _ p _ _ _ hp h ih =>
    have hround := hp.may_round (σ := σ) items
    cases hgiven : p.next.given with
    | true =>
      rw [hgiven, if_pos rfl] at hround
      have hmay := hround.loop_again (ih hnext hgiven (items ++ p.items))
      rwa [List.append_assoc] at hmay
    | false =>
      rw [hgiven, if_neg Bool.false_ne_true] at hround
      rw [h.eq_nil hgiven]
      simpa using hround.loop_leave

theorem Follows.may_getAll (h : c.Follows revision (.str path) pages next) (hpath : path ≠ "")
    (hnext : next.given = false) : (c.getAll path revision : Task σ (List Json)).May
      (pages.map Page.exchange) (.ok (pages.flatMap Page.items)) := by
  rw [getAll_eq]
  exact h.may_all hnext (Json.given_str.mpr hpath) []

theorem Follows.may_getAll_error (h : c.Follows revision (.str path) pages (.str address))
    (haddress : address ≠ "") {r : Request} {reply : Reply} {f : Failure}
    (hr : c.request "GET" address none revision .empty = .ok r)
    (hkind : r.url.checkKind = .ok ()) (hf : StandsFor ("GET " ++ address) reply f) :
    (c.getAll path revision : Task σ (List Json)).May
      (pages.map Page.exchange ++ [⟨r, reply⟩]) (.error f) := by
  rw [getAll_eq]
  refine h.may_rounds (Json.given_str.mpr haddress) (.loop_error ?_)
  exact .bind_error (hf.may_send hr hkind)

end Client

end MarketingFlow
