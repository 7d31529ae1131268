import MarketingFlow.Proofs.Flow.ValidGraph
import MarketingFlow.Proofs.Interaction.Exchanges
import MarketingFlow.Proofs.Service.Documents
import MarketingFlow.Proofs.Service.Stages

/-!
# What a payload defines

The actions of a payload are the actions of the flow in the order of traversal, each under its own
id. For a valid flow the payload is a closed copy of the flow's graph: no action is lost or doubled,
and no link leads out of it.
-/

namespace MarketingFlow.Payload

open Outcome

variable {σ : Type} {settings : Option Settings} {sender : Sender} {templates : TemplateIds}

/-! ## The actions of a payload -/

theorem action_of_compileAction {a : Action} {c : Compiled}
    (h : compileAction settings sender templates a = .ok c) : c.action = a := by
  obtain ⟨_, -, h⟩ := bind_eq_ok_iff.mp h
  cases h
  rfl

theorem map_action_of_mapM {actions : List Action} {compiled : List Compiled}
    (h : actions.mapM (compileAction settings sender templates) = .ok compiled) :
    compiled.map Compiled.action = actions := by
  induction actions generalizing compiled with
  | nil =>
    cases h
    rfl
  | cons a rest ih =>
    obtain ⟨c, more, hc, hmore, rfl⟩ := mapM_cons_eq_ok_iff.mp h
    rw [List.map_cons, action_of_compileAction hc, ih hmore]

/-- The action in a place is made from the action in the same place. -/
theorem getElem?_of_mapM {ordered : List Action} {compiled : List Compiled}
    (h : ordered.mapM (compileAction settings sender templates) = .ok compiled) {i : Nat}
    {a : Action} (ha : ordered[i]? = some a) :
    ∃ c, compiled[i]? = some c ∧ c.action = a ∧
      compileAction settings sender templates a = .ok c := by
  have hactions := map_action_of_mapM h
  rw [← hactions, List.getElem?_map] at ha
  obtain ⟨c, hc, rfl⟩ := Option.map_eq_some_iff.mp ha
  obtain ⟨b, -, hb⟩ := (mem_iff_of_mapM h).mp (List.mem_of_getElem? hc)
  have haction := action_of_compileAction hb
  exact ⟨c, hc, rfl, haction ▸ hb⟩

theorem ensures_compileActions (settings : Option Settings) (sender : Sender)
    (templates : TemplateIds) (actions : List Action) :
    (compileActions settings sender templates actions : Task σ (List Compiled)).Ensures fun x r =>
      x = [] ∧ r = actions.mapM (compileAction settings sender templates) := by
  induction actions with
  | nil =>
    rw [compileActions]
    exact .pure ⟨rfl, rfl⟩
  | cons a rest ih =>
    rw [compileActions, List.mapM_cons]
    refine .ofExcept_bind (fun c hc => ?_) fun e he => ?_
    · have hrest : (compileActions settings sender templates rest >>= fun more =>
          pure (c :: more) : Task σ (List Compiled)).Ensures fun x r => x = [] ∧
            r = rest.mapM (compileAction settings sender templates) >>= fun more =>
              pure (c :: more) := by
        refine ih.bind ?_ ?_
        · rintro _ more ⟨rfl, hmore⟩
          rw [← hmore]
          exact .pure ⟨rfl, rfl⟩
        · rintro _ e ⟨rfl, he⟩
          rw [← he]
          exact ⟨rfl, rfl⟩
      rw [hc, ok_bind]
      split
      · exact .quiet_bind fun _ => hrest
      · exact hrest
    · rw [he]
      exact ⟨rfl, rfl⟩

/-- What a create request is made of. -/
structure Creation.Holds (creation : Creation) (f : Flow) (ordered : List Action)
    (compiled : List Compiled) : Prop where
  payload : ∃ trigger, creation.payload = document f trigger compiled
  order : creation.actionOrder = ordered.map Action.id
  warnings : creation.warnings = compiled.filterMap Compiled.warning?

theorem ensures_ofFlow (f : Flow) (service : Option (NameService σ)) (sender : Sender)
    (templates : TemplateIds) :
    (ofFlow f service sender templates).Ensures fun _ r => ∀ creation, r = .ok creation →
      ∃ ordered compiled, f.traverse = .ok ordered ∧
        ordered.mapM (compileAction f.settings sender templates) = .ok compiled ∧
        creation.Holds f ordered compiled := by
  rw [ofFlow]
  refine .ofExcept_bind (fun ordered hordered => ?_) ?_
  · refine (ensures_compileActions _ _ _ _).bind ?_ ?_
    · rintro _ compiled ⟨rfl, hcompiled⟩
      refine (Task.ensures_anything _).bind (fun _ trigger _ => ?_) ?_
      · refine .quiet_bind fun _ => .pure ?_
        rintro _ ⟨⟩
        exact ⟨ordered, compiled, hordered, hcompiled.symm, ⟨trigger, rfl⟩, rfl, rfl⟩
      · rintro _ e - _ ⟨⟩
    · rintro _ e - _ ⟨⟩
  · rintro e - _ ⟨⟩

/-! ## The graph of a payload -/

namespace Creation

variable (c : Creation)

def definition : Json :=
  ((c.payload.member "data").member "attributes").member "definition"

def actions : List Json :=
  (c.definition.member "actions").items

def temporaryIds : List Json :=
  c.actions.map fun action => action.member "temporary_id"

variable {c} {f : Flow} {ordered : List Action} {compiled : List Compiled}

theorem Holds.actions_eq (h : c.Holds f ordered compiled) :
    c.actions = compiled.map Compiled.toJson := by
  obtain ⟨trigger, htrigger⟩ := h.payload
  rw [actions, definition, htrigger]
  rfl

theorem Holds.entry_eq (h : c.Holds f ordered compiled) :
    c.definition.member "entry_action_id" = f.entry := by
  obtain ⟨trigger, htrigger⟩ := h.payload
  rw [definition, htrigger]
  rfl

end Creation

/-- In a payload for a valid flow, the actions have the ids, types and links of the flow's actions,
each id once, and the entry and all links that are given name an action of the payload. -/
theorem closed_copy {f : Flow} {v : Verdict} {service : Option (NameService σ)} {s s' : σ}
    {t : List (Event World)} {creation : Creation} (hv : f.validate = .ok v)
    (hvalid : v.valid = true)
    (h : Program.Reaches ((ofFlow f service sender templates).start s) t
      (.done (.ok creation, s'))) :
    creation.temporaryIds = creation.actionOrder.map .str ∧ creation.actionOrder.Nodup ∧
      creation.actionOrder.Perm f.ids ∧
      creation.definition.member "entry_action_id" ∈ creation.temporaryIds ∧
      ∀ c ∈ creation.actions, ∃ a, f.find? a.id = some a ∧
        c.member "temporary_id" = .str a.id ∧ c.member "type" = .str a.typeName ∧
        c.member "links" = .obj a.links ∧
        ∀ link ∈ a.links, link.2.given = true → link.2 ∈ creation.temporaryIds := by
  obtain ⟨ordered, compiled, htraverse, hcompiled, hcreation⟩ :=
    (ensures_ofFlow f service sender templates).reaches h creation rfl
  have hlinked := Flow.linked_of_valid hv hvalid
  have henumerates := hlinked.enumerates htraverse
  have hids : creation.temporaryIds = ordered.map fun a => .str a.id := by
    rw [Creation.temporaryIds, hcreation.actions_eq, ← map_action_of_mapM hcompiled, List.map_map,
      List.map_map]
    rfl
  have hdefined : ∀ target, f.Defines target → target ∈ creation.temporaryIds := by
    rintro _ ⟨a, ha, rfl⟩
    obtain ⟨b, hb, hid⟩ := List.mem_map.mp ((henumerates.mem_iff a.id).mpr (List.mem_map_of_mem ha))
    rw [hids, ← hid]
    exact List.mem_map_of_mem hb
  rw [hcreation.order, hcreation.entry_eq, hcreation.actions_eq]
  refine ⟨?_, henumerates.nodup, ?_, hdefined _ hlinked.entry, ?_⟩
  · rw [hids, List.map_map]
    rfl
  · exact (henumerates.perm hlinked.ids).map Action.id
  · intro action haction
    obtain ⟨c, hc, rfl⟩ := List.mem_map.mp haction
    have ha : c.action ∈ ordered := by
      rw [← map_action_of_mapM hcompiled]
      exact List.mem_map_of_mem hc
    have hfirst := henumerates.first c.action ha
    refine ⟨c.action, hfirst, rfl, rfl, rfl, fun link hlink hgiven => hdefined _ ?_⟩
    exact hlinked.links c.action (Flow.find?_eq_some hfirst).1 link hlink hgiven

/-- The split comes first in the payload, though it is defined last. -/
theorem closed_copy_fork :
    ∃ v t creation, Flow.fork.validate = .ok v ∧ v.valid = true ∧
      Program.Reaches ((ofFlow .fork none ⟨.null, .null⟩ [] : Task Unit Creation).start ()) t
        (.done (.ok creation, ())) ∧
      creation.temporaryIds = ["split", "first", "wait", "second"].map .str ∧
      creation.definition.member "entry_action_id" ∈ creation.temporaryIds := by
  have hlast : ∃ creation, (Program.record World.smooth 8
      ((ofFlow .fork none ⟨.null, .null⟩ [] : Task Unit Creation).start ())).2.result? =
        some (.ok creation, ()) ∧ creation.actionOrder = ["split", "first", "wait", "second"] := by
    simp only [ofFlow, Flow.traverse_fork]
    exact ⟨_, rfl, rfl⟩
  obtain ⟨creation, hlast, horder⟩ := hlast
  have hrun := Program.reaches_of_record hlast
  obtain ⟨hids, -, -, hentry, -⟩ := closed_copy Flow.validate_fork rfl hrun
  rw [horder] at hids
  exact ⟨_, _, creation, Flow.validate_fork, rfl, hrun, hids, hentry⟩

end MarketingFlow.Payload
