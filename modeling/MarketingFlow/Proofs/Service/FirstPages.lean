import MarketingFlow.Proofs.Service.Pages
import MarketingFlow.Proofs.Service.Stages

/-!
# Collections of which the first page is read

The flows of an account, the actions of a flow and the messages of an action are asked for with one
request, whatever the answer names as the next page. The items of all further pages are missed.
-/

namespace MarketingFlow

open Outcome

namespace Client

variable {σ : Type} {c : Client} {path : String} {query : Option Query.Pairs}
  {revision : Option String}

/-- The query for the flows of one status, or of all. -/
def statusQuery (status : Json) : Option Query.Pairs :=
  if status.given then some [("filter", "equals(status,\"" ++ status.text ++ "\")")] else none

/-- The first page at `path` is all that the task asks for: it gives the items of that page, which
are those of the collection if and only if the other pages are empty. -/
def ReadsFirst (c : Client) (path : String) (query : Option Query.Pairs)
    (revision : Option String) (t : Task σ Json) : Prop :=
  ∀ first more last, c.Gets path query revision first →
    c.Follows revision first.next more last → last.given = false →
    t.Amounts [first.exchange] (.ok (.arr first.items)) ∧
      (first.items = (first :: more).flatMap Page.items ↔ ∀ p ∈ more, p.items = [])

theorem readsFirst_of_may {t : Task σ Json} (ht : t.Calls World.Call.Consults)
    (hmay : ∀ first, c.Gets path query revision first →
      t.May [first.exchange] (.ok (.arr first.items))) : c.ReadsFirst path query revision t := by
  intro first more last hfirst _ _
  refine ⟨(hmay first hfirst).amounts ht, ?_⟩
  rw [List.flatMap_cons, List.self_eq_append_right, List.flatMap_eq_nil_iff]

theorem readsFirst_listFlows (status : Json) :
    c.ReadsFirst "/flows/" (statusQuery status) none (c.listFlows status : Task σ Json) := by
  have hcalls : (c.listFlows status : Task σ Json).Calls World.Call.Consults := by
    unfold listFlows
    grind
  refine readsFirst_of_may hcalls fun first hfirst => ?_
  rw [listFlows]
  refine .bind (y := []) hfirst.may_send ?_
  rw [Page.get_data hfirst.isPage, ← Page.orNone_data hfirst.isPage]
  exact .bind (x := []) (.ofExcept _) (.pure _)

theorem readsFirst_flowActions (flowId : Json) :
    c.ReadsFirst ("/flows/" ++ flowId.text ++ "/flow-actions/") none (some stableRevision)
      (c.flowActions flowId : Task σ Json) := by
  refine readsFirst_of_may c.plain_flowActions fun first hfirst => ?_
  rw [flowActions]
  refine .bind (y := []) hfirst.may_send ?_
  rw [Page.get_data hfirst.isPage]
  refine .bind (x := []) (.ofExcept _) ?_
  rw [Page.orNone_data hfirst.isPage]
  exact .bind (x := []) (.ofExcept (.ok first.items.length)) (.log_bind (.pure _))

theorem readsFirst_flowActionMessages (actionId : Json) :
    c.ReadsFirst ("/flow-actions/" ++ actionId.text ++ "/flow-messages/") none
      (some stableRevision) (c.flowActionMessages actionId : Task σ Json) := by
  refine readsFirst_of_may c.plain_flowActionMessages fun first hfirst => ?_
  rw [flowActionMessages]
  refine .bind (y := []) hfirst.may_send ?_
  rw [Page.get_data hfirst.isPage, ← Page.orNone_data hfirst.isPage]
  exact .bind (x := []) (.ofExcept _) (.pure _)

/-- Flows, their actions and the messages of those are read off the first page. -/
theorem reads_first_pages (c : Client) :
    (∀ status, c.ReadsFirst "/flows/" (statusQuery status) none
      (c.listFlows status : Task σ Json)) ∧
    (∀ flowId : Json, c.ReadsFirst ("/flows/" ++ flowId.text ++ "/flow-actions/") none
      (some stableRevision) (c.flowActions flowId : Task σ Json)) ∧
    ∀ actionId : Json, c.ReadsFirst ("/flow-actions/" ++ actionId.text ++ "/flow-messages/") none
      (some stableRevision) (c.flowActionMessages actionId : Task σ Json) :=
  ⟨readsFirst_listFlows, readsFirst_flowActions, readsFirst_flowActionMessages⟩

/-- The first of two pages of flows. -/
def firstFlows : String :=
  "\x7b\"data\":[\x7b\"id\":\"1\"\x7d],\"links\":\x7b\"next\":\"/b\"\x7d\x7d"

def lastFlows : String :=
  "\x7b\"data\":[\x7b\"id\":\"2\"\x7d]\x7d"

/-- Of two flows on two pages only the first is listed. -/
theorem reads_first_of_two : ∃ first last,
    nearby.Gets "/flows/" none none first ∧
      nearby.Follows none first.next [last] last.next ∧ last.next.given = false ∧
      [first, last].map (fun p => p.items.map fun v => (v.member "id").text) = [["1"], ["2"]] ∧
      (nearby.listFlows .null : Task Unit Json).Amounts [first.exchange]
        (.ok (.arr first.items)) ∧
      first.items ≠ [first, last].flatMap Page.items := by
  obtain ⟨first, hfirst, -, hq⟩ := exists_gets nearby "/flows/" none none firstFlows
    (fun p => p.shows ["1"] (some "/b")) rfl rfl (by decide +kernel)
  obtain ⟨last, hlast, -, hq'⟩ := exists_gets nearby "/b" none none lastFlows
    (fun p => p.shows ["2"] none) rfl rfl (by decide +kernel)
  obtain ⟨hids, hnext⟩ := Page.shows_some hq
  obtain ⟨hids', hnext'⟩ := Page.shows_none hq'
  have hmore : nearby.Follows none first.next [last] last.next :=
    hnext ▸ .cons (by decide) hlast (.nil last.next)
  obtain ⟨hreads, hiff⟩ := (reads_first_pages (σ := Unit) nearby).1 .null first [last] last.next
    hfirst hmore hnext'
  refine ⟨first, last, hfirst, hmore, hnext', by simp [hids, hids'], hreads, fun hall => ?_⟩
  rw [hiff.mp hall last (List.mem_singleton_self last)] at hids'
  cases hids'

end Client

end MarketingFlow
