import MarketingFlow.Proofs.Flow.DepthFirst

/-!
# What the entry leads to

Two loops go through a flow: the walk, which keeps the order in which links are followed, and the
spread, which keeps none and follows the last link first. Both are searches, whichever way links are
put on the stack; and a search finds exactly the least set of ids that has the entry and is closed
under links. So the walk emits what the spread reaches, and then the rest.
-/

namespace MarketingFlow.Flow

/-- The set has the entry and, with every id, the defined ids that its action links to. -/
structure Closed (f : Flow) (S : Set String) : Prop where
  entry : ∀ id, f.entry = .str id → id ∈ f.ids → id ∈ S
  links : ∀ id ∈ S, ∀ a, f.find? id = some a → ∀ next, .str next ∈ a.nextIds → next ∈ f.ids →
    next ∈ S

/-- Every id of the flow once, with the action that it stands for. -/
structure Enumerates (f : Flow) (actions : List Action) : Prop where
  nodup : (actions.map Action.id).Nodup
  mem_iff : ∀ id, id ∈ actions.map Action.id ↔ id ∈ f.ids
  first : ∀ a ∈ actions, f.find? a.id = some a

/-! ## Actions and their ids -/

theorem find?_eq_some {f : Flow} {id : String} {a : Action} (h : f.find? id = some a) :
    a ∈ f.actions ∧ a.id = id :=
  ⟨List.mem_of_find?_eq_some h, by simpa using List.find?_some h⟩

theorem find?_eq_none_iff {f : Flow} {id : String} : f.find? id = none ↔ id ∉ f.ids := by
  simp [find?, ids]

theorem find?_id_of_nodup {f : Flow} (hids : f.ids.Nodup) {a : Action} (ha : a ∈ f.actions) :
    f.find? a.id = some a := by
  cases h : f.find? a.id with
  | none => exact absurd (List.mem_map_of_mem ha) (find?_eq_none_iff.mp h)
  | some b =>
    obtain ⟨hb, hid⟩ := find?_eq_some h
    rw [List.inj_on_of_nodup_map hids hb ha hid]

theorem Enumerates.perm {f : Flow} {actions : List Action} (h : f.Enumerates actions)
    (hids : f.ids.Nodup) : actions.Perm f.actions := by
  apply (List.perm_ext_iff_of_nodup (List.Nodup.of_map _ h.nodup) (List.Nodup.of_map _ hids)).mpr
  intro a
  constructor
  · intro ha
    exact (find?_eq_some (h.first a ha)).1
  · intro ha
    obtain ⟨b, hb, hid⟩ := List.mem_map.mp ((h.mem_iff a.id).mpr (List.mem_map_of_mem ha))
    have hfirst := h.first b hb
    rw [hid, find?_id_of_nodup hids ha] at hfirst
    cases hfirst
    exact hb

theorem unseen?_eq_some_iff {f : Flow} {seen : List String} {target : Json} {a : Action} :
    f.unseen? seen target = some a ↔
      target = .str a.id ∧ a.id ∉ seen ∧ f.find? a.id = some a := by
  constructor
  · intro h
    unfold unseen? at h
    split at h
    · split at h
      · cases h
      · rename_i id hid
        obtain ⟨-, rfl⟩ := find?_eq_some h
        exact ⟨rfl, hid, h⟩
    · cases h
  · rintro ⟨rfl, hseen, h⟩
    rw [unseen?, if_neg hseen, h]

theorem unseen?_eq_none {f : Flow} {seen : List String} {id : String}
    (h : f.unseen? seen (.str id) = none) (hid : id ∈ f.ids) : id ∈ seen := by
  by_contra hseen
  rw [unseen?, if_neg hseen] at h
  exact find?_eq_none_iff.mp h hid

theorem map_id_unseen (f : Flow) (seen : List String) :
    (f.unseen seen).map Action.id = f.ids.filter fun id => id ∉ seen := by
  rw [unseen, ids, List.filter_map]
  rfl

/-! ## Searches -/

/-- A search from a stack, where some ids were seen before: what it finds, in order. The links of an
action may be put on the stack in any order. -/
inductive Search (f : Flow) : List String → List Json → List Action → Prop where
  | done (seen : List String) : Search f seen [] []
  | skip {seen : List String} {target : Json} {rest : List Json} {found : List Action}
      (h : f.unseen? seen target = none) (hrest : Search f seen rest found) :
      Search f seen (target :: rest) found
  | visit {seen : List String} {target : Json} {pushed rest : List Json} {found : List Action}
      {a : Action} (h : f.unseen? seen target = some a)
      (hpushed : ∀ link, link ∈ pushed ↔ link ∈ a.nextIds)
      (hrest : Search f (a.id :: seen) (pushed ++ rest) found) :
      Search f seen (target :: rest) (a :: found)

namespace Search

variable {f : Flow} {seen : List String} {stack : List Json} {found : List Action}

theorem nodup (h : f.Search seen stack found) :
    (found.map Action.id).Nodup ∧ ∀ a ∈ found, a.id ∉ seen := by
  induction h with
  | done seen => simp
  | skip _ _ ih => exact ih
  | visit h _ _ ih =>
    obtain ⟨-, hseen, -⟩ := unseen?_eq_some_iff.mp h
    obtain ⟨hnodup, hfresh⟩ := ih
    rw [List.map_cons, List.nodup_cons, List.forall_mem_cons]
    refine ⟨⟨?_, hnodup⟩, hseen, ?_⟩
    · intro hmem
      obtain ⟨b, hb, hid⟩ := List.mem_map.mp hmem
      exact hfresh b hb (by simp [hid])
    · intro b hb hmem
      exact hfresh b hb (List.mem_cons_of_mem _ hmem)

theorem first (h : f.Search seen stack found) : ∀ a ∈ found, f.find? a.id = some a := by
  induction h with
  | done seen => simp
  | skip _ _ ih => exact ih
  | visit h _ _ ih => exact List.forall_mem_cons.mpr ⟨(unseen?_eq_some_iff.mp h).2.2, ih⟩

/-- Nothing is missed: neither a target of the stack nor a link of what is found. -/
theorem complete (h : f.Search seen stack found) :
    (∀ id, .str id ∈ stack → id ∈ f.ids → id ∈ found.map Action.id ∨ id ∈ seen) ∧
      ∀ a ∈ found, ∀ next, .str next ∈ a.nextIds → next ∈ f.ids →
        next ∈ found.map Action.id ∨ next ∈ seen := by
  induction h with
  | done seen => simp
  | skip h _ ih =>
    obtain ⟨hstack, hlinks⟩ := ih
    refine ⟨?_, hlinks⟩
    intro id hmem hid
    rcases List.mem_cons.mp hmem with rfl | hmem
    · exact .inr (unseen?_eq_none h hid)
    · exact hstack id hmem hid
  | @visit seen target pushed rest found a h hpushed _ ih =>
    obtain ⟨rfl, -, -⟩ := unseen?_eq_some_iff.mp h
    obtain ⟨hstack, hlinks⟩ := ih
    have hmove : ∀ id, id ∈ found.map Action.id ∨ id ∈ a.id :: seen →
        id ∈ (a :: found).map Action.id ∨ id ∈ seen := by
      intro id
      simp only [List.map_cons, List.mem_cons]
      tauto
    constructor
    · intro id hmem hid
      rcases List.mem_cons.mp hmem with heq | hmem
      · cases heq
        exact .inl (by simp)
      · exact hmove id (hstack id (List.mem_append_right _ hmem) hid)
    · intro b hb next hnext hid
      rcases List.mem_cons.mp hb with rfl | hb
      · have hmem : .str next ∈ pushed ++ rest :=
          List.mem_append_left _ ((hpushed _).mpr hnext)
        exact hmove next (hstack next hmem hid)
      · exact hmove next (hlinks b hb next hnext hid)

/-- Nothing is found without need: what is found is in every set with the targets of the stack that
is closed under links. -/
theorem sound (h : f.Search seen stack found) {S : Set String}
    (hstack : ∀ id, .str id ∈ stack → id ∈ f.ids → id ∈ S)
    (hlinks : ∀ id ∈ S, ∀ a, f.find? id = some a → ∀ next, .str next ∈ a.nextIds →
      next ∈ f.ids → next ∈ S) : ∀ a ∈ found, a.id ∈ S := by
  induction h with
  | done seen => simp
  | skip _ _ ih => exact ih fun id hmem => hstack id (List.mem_cons_of_mem _ hmem)
  | @visit seen target pushed rest found a h hpushed _ ih =>
    obtain ⟨rfl, -, hfirst⟩ := unseen?_eq_some_iff.mp h
    have hid : a.id ∈ f.ids := List.mem_map_of_mem (find?_eq_some hfirst).1
    have ha : a.id ∈ S := hstack a.id (by simp) hid
    refine List.forall_mem_cons.mpr ⟨ha, ih ?_⟩
    intro id hmem hid
    rcases List.mem_append.mp hmem with hmem | hmem
    · exact hlinks a.id ha a hfirst id ((hpushed _).mp hmem) hid
    · exact hstack id (List.mem_cons_of_mem _ hmem) hid

/-- A search from the entry alone finds the least closed set. -/
theorem isLeast (h : f.Search [] [f.entry] found) :
    IsLeast {S : Set String | f.Closed S} {id | id ∈ found.map Action.id} := by
  constructor
  · obtain ⟨hstack, hlinks⟩ := h.complete
    constructor
    · intro id hentry hid
      simpa using hstack id (by simp [hentry]) hid
    · intro id hmem a ha next hnext hid
      obtain ⟨b, hb, rfl⟩ := List.mem_map.mp hmem
      have hfirst := h.first b hb
      rw [ha] at hfirst
      cases hfirst
      simpa using hlinks a hb next hnext hid
  · rintro S hS id hmem
    obtain ⟨a, ha, rfl⟩ := List.mem_map.mp hmem
    refine h.sound (S := S) ?_ hS.links a ha
    intro id hentry hid
    exact hS.entry id (List.mem_singleton.mp hentry).symm hid

end Search

/-! ## Both loops are searches -/

section

variable {f : Flow} (hf : ∀ a ∈ f.actions, ∀ target ∈ a.nextIds, target.isKey = true)

include hf

theorem search_of_walk {pool : List Action} {stack : List Json} {seen : List String}
    (hpool : pool = f.unseen seen) (hk : ∀ target ∈ stack, target.isKey = true) :
    ∃ found, walk pool stack = .ok (found, f.unseen (found.map Action.id ++ seen)) ∧
      f.Search seen stack found := by
  induction pool, stack using walk.induct generalizing seen with
  | case1 pool =>
    subst hpool
    exact ⟨[], walk_nil _, .done seen⟩
  | case2 pool target rest ihRest ihFound =>
    subst hpool
    obtain ⟨hkey, hkeys⟩ := List.forall_mem_cons.mp hk
    have hfind := find?_unseen f seen target
    cases h : f.unseen? seen target with
    | none =>
      rw [h] at hfind
      obtain ⟨found, hwalk, hsearch⟩ := ihRest rfl hkeys
      exact ⟨found, by rw [walk_cons_absent hkey hfind, hwalk], .skip h hsearch⟩
    | some a =>
      rw [h] at hfind
      have hlinks := hf a (unseen?_eq_some h).1
      have hstack := List.forall_mem_append.mpr ⟨hlinks, hkeys⟩
      obtain ⟨found, hwalk, hsearch⟩ := ihFound target a hfind (without_unseen f seen a) hstack
      refine ⟨a :: found, ?_, .visit h (fun _ => Iff.rfl) hsearch⟩
      rw [walk_cons_present hkey hfind, hwalk]
      change Except.ok (a :: found, f.unseen _) = Except.ok (a :: found, f.unseen _)
      rw [unseen_congr]
      intro id
      simp only [List.mem_append, List.mem_cons, List.map_cons]
      tauto

theorem search_of_spread {pool : List Action} {stack : List Json} {seen : List String}
    (hpool : pool = f.unseen seen) (hk : ∀ target ∈ stack, target.isKey = true) :
    ∃ found, spread pool stack = .ok (found.map Action.id) ∧ f.Search seen stack found := by
  induction pool, stack using spread.induct generalizing seen with
  | case1 pool =>
    rw [spread]
    exact ⟨[], rfl, .done seen⟩
  | case2 pool target rest ihRest ihFound =>
    subst hpool
    obtain ⟨hkey, hkeys⟩ := List.forall_mem_cons.mp hk
    have hfind := find?_unseen f seen target
    rw [spread, Json.asKey_of_isKey hkey, Outcome.ok_bind]
    cases h : f.unseen? seen target with
    | none =>
      rw [h] at hfind
      obtain ⟨found, hspread, hsearch⟩ := ihRest rfl hkeys
      refine ⟨found, ?_, .skip h hsearch⟩
      split
      · exact hspread
      · simp_all
    | some a =>
      rw [h] at hfind
      have hlinks : ∀ link ∈ a.nextIds.reverse, link.isKey = true := by
        simpa using hf a (unseen?_eq_some h).1
      have hstack := List.forall_mem_append.mpr ⟨hlinks, hkeys⟩
      obtain ⟨found, hspread, hsearch⟩ := ihFound target a hfind (without_unseen f seen a) hstack
      refine ⟨a :: found, ?_, .visit h (fun _ => List.mem_reverse) hsearch⟩
      split
      · simp_all
      · rename_i b hb
        obtain rfl : b = a := by simp_all
        rw [hspread]
        rfl

end

/-! ## The rest -/

theorem map_id_firstOfEach (pool : List Action) :
    (firstOfEach pool).map Action.id = (pool.map Action.id).eraseDups := by
  induction pool using firstOfEach.induct with
  | case1 => rw [firstOfEach, List.map_nil, List.eraseDups_nil]
  | case2 a rest ih =>
    rw [firstOfEach, List.map_cons, ih, List.map_cons, List.eraseDups_cons, without,
      List.filter_map]
    rfl

theorem find?_firstOfEach {pool : List Action} {a : Action} (ha : a ∈ firstOfEach pool) :
    pool.find? (Action.namedBy (.str a.id)) = some a := by
  induction pool using firstOfEach.induct with
  | case1 =>
    rw [firstOfEach] at ha
    cases ha
  | case2 b rest ih =>
    rw [firstOfEach] at ha
    rcases List.mem_cons.mp ha with rfl | ha
    · rw [List.find?_cons_of_pos (by simp [Action.namedBy])]
    · have hfind := ih ha
      have hne : a.id ≠ b.id := by
        have hmem := List.mem_of_find?_eq_some hfind
        simpa [without] using (List.mem_filter.mp hmem).2
      rw [List.find?_cons_of_neg (by simpa [Action.namedBy] using hne.symm), ← hfind, without,
        List.find?_filter]
      congr 1
      funext c
      rw [Bool.eq_iff_iff]
      simp only [Action.namedBy, decide_eq_true_eq, beq_iff_eq, bne_iff_ne]
      exact ⟨fun hc => ⟨hc ▸ hne, hc⟩, And.right⟩

theorem nodup_map_id_firstOfEach (pool : List Action) :
    ((firstOfEach pool).map Action.id).Nodup := by
  induction pool using firstOfEach.induct with
  | case1 =>
    rw [firstOfEach]
    exact List.nodup_nil
  | case2 a rest ih =>
    rw [firstOfEach, List.map_cons, List.nodup_cons]
    refine ⟨?_, ih⟩
    rw [map_id_firstOfEach, List.mem_eraseDups]
    simp [without]

/-- What a walk emits and what it leaves are apart, whatever the links are. -/
theorem emitted_of_walk {pool : List Action} {stack : List Json} {emitted left : List Action}
    (h : walk pool stack = .ok (emitted, left)) :
    (emitted.map Action.id).Nodup ∧ (∀ a ∈ emitted, a ∈ pool) ∧
      ∀ a ∈ left, a ∈ pool ∧ a.id ∉ emitted.map Action.id := by
  induction pool, stack using walk.induct generalizing emitted left with
  | case1 pool =>
    rw [walk_nil] at h
    cases h
    simp
  | case2 pool target rest ihRest ihFound =>
    cases hk : target.isKey with
    | false =>
      rw [walk_cons_notKey hk] at h
      cases h
    | true =>
      cases hf : pool.find? (Action.namedBy target) with
      | none =>
        rw [walk_cons_absent hk hf] at h
        exact ihRest h
      | some a =>
        rw [walk_cons_present hk hf] at h
        obtain ⟨⟨more, left⟩, hmore, h⟩ := Outcome.bind_eq_ok_iff.mp h
        cases h
        obtain ⟨hnodup, hpool, hleft⟩ := ihFound target a hf hmore
        have hwithout : ∀ b, b ∈ without pool a ↔ b ∈ pool ∧ b.id ≠ a.id := by simp [without]
        refine ⟨List.nodup_cons.mpr ⟨fun hid => ?_, hnodup⟩,
          List.forall_mem_cons.mpr ⟨List.mem_of_find?_eq_some hf, fun b hb => ?_⟩, fun b hb => ?_⟩
        · obtain ⟨b, hb, hid⟩ := List.mem_map.mp hid
          exact ((hwithout b).mp (hpool b hb)).2 hid
        · exact ((hwithout b).mp (hpool b hb)).1
        · obtain ⟨hb, hfresh⟩ := hleft b hb
          obtain ⟨hb, hne⟩ := (hwithout b).mp hb
          exact ⟨hb, by simpa [hne] using hfresh⟩

theorem nodup_map_id_of_traverse {f : Flow} {actions : List Action}
    (h : f.traverse = .ok actions) : (actions.map Action.id).Nodup := by
  rw [traverse] at h
  obtain ⟨⟨emitted, left⟩, hwalk, h⟩ := Outcome.bind_eq_ok_iff.mp h
  cases h
  obtain ⟨hnodup, -, hleft⟩ := emitted_of_walk hwalk
  rw [List.map_append, List.nodup_append]
  refine ⟨hnodup, nodup_map_id_firstOfEach left, ?_⟩
  rintro id hid _ hid' rfl
  rw [map_id_firstOfEach, List.mem_eraseDups] at hid'
  obtain ⟨a, ha, rfl⟩ := List.mem_map.mp hid'
  exact (hleft a ha).2 hid

theorem Search.enumerates {f : Flow} {stack : List Json} {found : List Action}
    (h : f.Search [] stack found) :
    f.Enumerates (found ++ firstOfEach (f.unseen (found.map Action.id))) := by
  have hrest : ∀ id, id ∈ (firstOfEach (f.unseen (found.map Action.id))).map Action.id ↔
      id ∈ f.ids ∧ id ∉ found.map Action.id := by
    intro id
    rw [map_id_firstOfEach, List.mem_eraseDups, map_id_unseen, List.mem_filter,
      decide_eq_true_eq]
  have hfound : ∀ id, id ∈ found.map Action.id → id ∈ f.ids := by
    intro id hid
    obtain ⟨a, ha, rfl⟩ := List.mem_map.mp hid
    exact List.mem_map_of_mem (find?_eq_some (h.first a ha)).1
  constructor
  · rw [List.map_append, List.nodup_append']
    refine ⟨h.nodup.1, nodup_map_id_firstOfEach _, ?_⟩
    intro id hid hmem
    exact ((hrest id).mp hmem).2 hid
  · intro id
    rw [List.map_append, List.mem_append, hrest]
    constructor
    · rintro (hid | ⟨hid, -⟩)
      · exact hfound id hid
      · exact hid
    · intro hid
      by_cases hmem : id ∈ found.map Action.id
      · exact .inl hmem
      · exact .inr ⟨hid, hmem⟩
  · intro a ha
    rcases List.mem_append.mp ha with ha | ha
    · exact h.first a ha
    · have hfind := find?_firstOfEach ha
      rw [find?_unseen] at hfind
      exact (unseen?_eq_some_iff.mp hfind).2.2

section

variable {f : Flow} (hf : ∀ a ∈ f.actions, ∀ target ∈ a.nextIds, target.isKey = true)

include hf

theorem traverse_eq_of_isKey (hentry : f.entry.given = true → f.entry.isKey = true) :
    ∃ found, f.Search [] (if f.entry.given then [f.entry] else []) found ∧
      f.traverse = .ok (found ++ firstOfEach (f.unseen (found.map Action.id))) := by
  have hk : ∀ target ∈ (if f.entry.given then [f.entry] else []), target.isKey = true := by
    intro target ht
    split at ht
    · rename_i hgiven
      rw [List.mem_singleton.mp ht]
      exact hentry hgiven
    · cases ht
  obtain ⟨found, hwalk, hsearch⟩ := search_of_walk hf (unseen_nil f).symm hk
  refine ⟨found, hsearch, ?_⟩
  rw [traverse, hwalk, List.append_nil]
  rfl

theorem traverse_eq_ok_iff :
    (∃ actions, f.traverse = .ok actions) ↔ (f.entry.given = true → f.entry.isKey = true) := by
  constructor
  · rintro ⟨actions, h⟩ hgiven
    by_contra hkey
    rw [traverse, if_pos hgiven, walk_cons_notKey (Bool.eq_false_iff.mpr hkey)] at h
    cases h
  · intro hentry
    obtain ⟨found, -, h⟩ := traverse_eq_of_isKey hf hentry
    exact ⟨_, h⟩

/-- The walk comes to an end unless the entry cannot be asked for, and it loses and repeats nothing.
What an entry reaches is the least set with the entry that is closed under links; its actions come
first, and then the other ids in the order of definition. -/
theorem traverse_enumerates :
    ((∃ actions, f.traverse = .ok actions) ↔ (f.entry.given = true → f.entry.isKey = true)) ∧
      ∀ actions, f.traverse = .ok actions →
        f.Enumerates actions ∧ (f.ids.Nodup → actions.Perm f.actions) ∧
          ∀ entry, f.entry = .str entry → entry ≠ "" →
            ∃ ids reached rest, f.reachableIds = .ok ids ∧
              IsLeast {S : Set String | f.Closed S} {id | id ∈ ids} ∧
              actions = reached ++ rest ∧ (∀ a ∈ reached, a.id ∈ ids) ∧
              rest.map Action.id = (f.ids.filter fun id => id ∉ ids).eraseDups := by
  refine ⟨traverse_eq_ok_iff hf, ?_⟩
  intro actions h
  obtain ⟨found, hsearch, htraverse⟩ :=
    traverse_eq_of_isKey hf ((traverse_eq_ok_iff hf).mp ⟨actions, h⟩)
  rw [htraverse] at h
  cases h
  refine ⟨hsearch.enumerates, hsearch.enumerates.perm, ?_⟩
  intro entry hentry hne
  have hgiven : f.entry.given = true := by
    rw [hentry]
    exact Json.given_str.mpr hne
  rw [if_pos hgiven] at hsearch
  have hk : ∀ target ∈ [f.entry], target.isKey = true := by simp [hentry, Json.isKey]
  obtain ⟨spreadTo, hspread, hspreads⟩ := search_of_spread hf (unseen_nil f).symm hk
  have hsame : ∀ id, id ∈ spreadTo.map Action.id ↔ id ∈ found.map Action.id := by
    have hset := hspreads.isLeast.unique hsearch.isLeast
    intro id
    exact Set.ext_iff.mp hset id
  refine ⟨_, found, _, hspread, hspreads.isLeast, rfl, ?_, ?_⟩
  · intro a ha
    exact (hsame a.id).mpr (List.mem_map_of_mem ha)
  · rw [map_id_firstOfEach, map_id_unseen]
    simp only [hsame]

end

/-- The split reaches both branches, where they meet again; nothing leads to the last id. -/
theorem traverse_crossing_enumerates :
    (∀ a ∈ crossing.actions, ∀ target ∈ a.nextIds, target.isKey = true) ∧
      ∃ actions ids reached rest, crossing.traverse = .ok actions ∧ crossing.Enumerates actions ∧
        crossing.reachableIds = .ok ids ∧
        IsLeast {S : Set String | crossing.Closed S} {id | id ∈ ids} ∧
        actions = reached ++ rest ∧ (∀ a ∈ reached, a.id ∈ ids) ∧ rest.map Action.id = ["d"] := by
  have hlinks : ∀ a ∈ crossing.actions, ∀ target ∈ a.nextIds, target.isKey = true := by decide
  obtain ⟨hreturns, hactions⟩ := traverse_enumerates hlinks
  obtain ⟨actions, htraverse⟩ := hreturns.mpr (by decide)
  obtain ⟨henumerates, -, hreached⟩ := hactions actions htraverse
  obtain ⟨ids, reached, rest, hids, hleast, happend, hmem, hrest⟩ := hreached "a" rfl (by decide)
  have hspread : crossing.reachableIds = .ok ["a", "c", "b"] := by cbv
  rw [hspread] at hids
  cases hids
  refine ⟨hlinks, actions, _, reached, rest, htraverse, henumerates, hspread, hleast, happend,
    hmem, ?_⟩
  rw [hrest]
  decide

end MarketingFlow.Flow
