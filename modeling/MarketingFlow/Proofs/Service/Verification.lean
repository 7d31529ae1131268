import MarketingFlow.Proofs.Flow.ValidGraph
import MarketingFlow.Proofs.Service.Answers
import MarketingFlow.Proofs.Service.Documents
import MarketingFlow.Proofs.Service.Stages
import MarketingFlow.Proofs.Text.Order
import MarketingFlow.Service.Verification

/-!
# Flows that match their definitions

What an answer about a flow says is its name and its actions. Verification accepts the flow if and
only if the name is that of the definition and the types of the actions are those of the definition,
each as often and in whatever order. As sorting forgets the order only, the comparison of the sorted
types is one of multisets, and lists of different lengths never pass it.
-/

namespace MarketingFlow

open Outcome

namespace Json

theorem same_str_iff {v : Json} {s : String} : v.same (.str s) = true ↔ v = .str s := by
  cases v <;> simp [same, number?]

theorem exists_members {vs : List Json} (h : ∀ v ∈ vs, v.isObject = true) :
    ∃ items : List Members, vs = items.map .obj := by
  induction vs with
  | nil => exact ⟨[], rfl⟩
  | cons v rest ih =>
    obtain ⟨hv, hrest⟩ := List.forall_mem_cons.mp h
    obtain ⟨items, rfl⟩ := ih hrest
    cases v with
    | obj ms => exact ⟨ms :: items, rfl⟩
    | _ => cases hv

end Json

namespace Verification

/-- An answer about a flow with its definition: each part of it is an object or nothing, and the
actions are objects. A flow without a name has an empty one. -/
structure Describes (answer name : Json) (actions : List Members) : Prop where
  object : answer.isObject = true
  data : (answer.member "data").isRecord = true
  attributes : ((answer.member "data").member "attributes").isRecord = true
  name : (((answer.member "data").member "attributes").member "name").orElse (.str "") = name
  definition :
    (((answer.member "data").member "attributes").member "definition").isRecord = true
  actions :
    ((((answer.member "data").member "attributes").member "definition").member "actions").orNone =
      .arr (actions.map .obj)

/-- The type of a remote action, as a text. -/
def typeOf (action : Members) : String :=
  (action.value "type").text

/-- The texts about what differs. -/
def differences (f : Flow) (name : Json) (actions : List Members) : List String :=
  (if name.same f.name then [] else
    ["Flow name is \"" ++ name.text ++ "\", expected \"" ++ f.name.text ++ "\"."]) ++
  (if actions.length = f.actions.length then [] else
    ["Flow has " ++ toString actions.length ++ " action(s), expected " ++
      toString f.actions.length ++ "."]) ++
  (if sorted (f.actions.map Action.typeName) = sorted (actions.map typeOf) then [] else
    ["Action types differ: expected " ++ listLiteral (sorted (f.actions.map Action.typeName)) ++
      ", got " ++ listLiteral (sorted (actions.map typeOf)) ++ "."])

section

variable {f : Flow} {answer id name : Json} {actions : List Members}

theorem Describes.ofAnswer_eq (h : Describes answer name actions) :
    Remote.ofAnswer answer =
      .ok ⟨(answer.member "data").member "id", name, .arr (actions.map .obj), actions.length⟩ := by
  have hdata : answer.get "data" = .ok (answer.member "data") :=
    Json.get_eq_ok_iff.mpr ⟨h.object, rfl⟩
  have hmember : ∀ {v : Json} {key : String}, v.isRecord = true →
      v.orEmpty.get key = .ok (v.member key) :=
    fun hv => Json.get_eq_ok_iff.mpr ⟨by simpa using hv, by simp⟩
  simp only [Remote.ofAnswer, hdata, hmember h.data, hmember h.attributes, hmember h.definition,
    h.actions, h.name, ok_bind, pure_eq, Json.size, List.length_map]

theorem compare_eq :
    compare f ⟨id, name, .arr (actions.map .obj), actions.length⟩ =
      .ok (differences f name actions) := by
  have htypes : (actions.map Json.obj).mapM
      (fun a => do return (← a.get "type").text : Json → Except Failure String) =
        .ok (actions.map typeOf) := by
    induction actions with
    | nil => rfl
    | cons a rest ih => exact mapM_cons_eq_ok_iff.mpr ⟨_, _, rfl, ih, rfl⟩
  rw [compare, Json.iterate, ok_bind, htypes]
  rfl

theorem sorted_eq_iff :
    sorted (f.actions.map Action.typeName) = sorted (actions.map typeOf) ↔
      (actions.map typeOf : Multiset String) = f.actions.map Action.typeName := by
  rw [sorted, sorted, Text.mergeSort_inOrder_eq_iff, Multiset.coe_eq_coe]
  exact List.perm_comm

theorem length_eq_of_types
    (h : (actions.map typeOf : Multiset String) = f.actions.map Action.typeName) :
    actions.length = f.actions.length := by
  simpa using congrArg Multiset.card h

theorem differences_eq_nil_iff :
    differences f name actions = [] ↔ name.same f.name = true ∧
      (actions.map typeOf : Multiset String) = f.actions.map Action.typeName := by
  simp only [differences, sorted_eq_iff, List.append_eq_nil_iff, ite_eq_left_iff, reduceCtorEq,
    imp_false, not_not]
  exact ⟨fun h => ⟨h.1.1, h.2⟩, fun h => ⟨⟨h.1, length_eq_of_types h.2⟩, h.2⟩⟩

/-- The same types are equally many, so a different number is never the only difference. -/
theorem mem_differences_of_length_ne (h : actions.length ≠ f.actions.length) :
    "Flow has " ++ toString actions.length ++ " action(s), expected " ++
        toString f.actions.length ++ "." ∈ differences f name actions ∧
      "Action types differ: expected " ++ listLiteral (sorted (f.actions.map Action.typeName)) ++
        ", got " ++ listLiteral (sorted (actions.map typeOf)) ++ "." ∈
          differences f name actions := by
  have htypes : sorted (f.actions.map Action.typeName) ≠ sorted (actions.map typeOf) :=
    fun hsorted => h (length_eq_of_types (sorted_eq_iff.mp hsorted))
  rw [differences, if_neg h, if_neg htypes]
  simp

end

end Verification

namespace Creator

open Verification

variable {k : Creator} {flowId answer name : Json} {f : Flow} {actions : List Members}

/-- What comes of comparing the definition with an answer of that shape. -/
def comparison (flowId answer name : Json) (f : Flow) (actions : List Members) : Verification :=
  ⟨((answer.member "data").member "id").orElse flowId, name, f.actions.length, actions.length,
    differences f name actions⟩

/-- Verification asks for the flow and does nothing else. -/
theorem run_verify_iff (hanswer : Describes answer name actions) {s s₁ s₂ : Memory}
    {u : List (Event World)} {r : Except Failure Verification}
    (hget : (k.client.getFlow flowId true : Work Json).Run s u (.ok answer) s₁) :
    (k.verify flowId (some f)).Run s u r s₂ ↔
      r = .ok (comparison flowId answer name f actions) ∧ s₂ = s₁ := by
  have hrun : (k.verify flowId (some f)).Run s (u ++ [])
      (.ok (comparison flowId answer name f actions)) s₁ := by
    rw [verify]
    refine Task.run_bind_ok hget ?_
    rw [hanswer.ofAnswer_eq]
    refine Task.run_bind_ok (u := []) (.here _) ?_
    dsimp only
    rw [compare_eq]
    exact .here _
  rw [List.append_nil] at hrun
  constructor
  · intro h
    have hsame := Program.Reaches.done_unique (v := []) (w := []) h hrun rfl
    cases hsame
    exact ⟨rfl, rfl⟩
  · rintro ⟨rfl, rfl⟩
    exact hrun

/-- Verification accepts a flow if and only if its name is that of the definition and its types of
actions are those of the definition, each as often. A different number of actions is reported
together with the types. -/
theorem verify_accepts (hanswer : Describes answer name actions) :
    ∃ v : Verification,
      (∀ s u s₁, (k.client.getFlow flowId true : Work Json).Run s u (.ok answer) s₁ → ∀ r s₂,
        (k.verify flowId (some f)).Run s u r s₂ ↔ r = .ok v ∧ s₂ = s₁) ∧
      (v.success = true ↔ name.same f.name = true ∧
        (actions.map typeOf : Multiset String) = f.actions.map Action.typeName) ∧
      (v.mismatches = [] ↔ name.same f.name = true ∧
        (actions.map typeOf : Multiset String) = f.actions.map Action.typeName) ∧
      (actions.length ≠ f.actions.length →
        "Flow has " ++ toString actions.length ++ " action(s), expected " ++
            toString f.actions.length ++ "." ∈ v.mismatches ∧
          "Action types differ: expected " ++
            listLiteral (sorted (f.actions.map Action.typeName)) ++ ", got " ++
            listLiteral (sorted (actions.map typeOf)) ++ "." ∈ v.mismatches) := by
  refine ⟨comparison flowId answer name f actions,
    fun s u s₁ hget r s₂ => run_verify_iff hanswer hget, ?_, differences_eq_nil_iff,
    mem_differences_of_length_ne⟩
  rw [success, List.isEmpty_iff]
  exact differences_eq_nil_iff

/-- The service has the actions of the fork in another order. -/
def forkAnswer : String :=
  "\x7b\"data\":\x7b\"attributes\":\x7b\"name\":\"Fork\",\"definition\":\x7b\"actions\":[" ++
    "\x7b\"type\":\"conditional-split\"\x7d,\x7b\"type\":\"send-email\"\x7d," ++
    "\x7b\"type\":\"time-delay\"\x7d,\x7b\"type\":\"send-email\"\x7d]\x7d\x7d\x7d\x7d"

theorem exists_describes_fork : ∃ answer actions,
    Client.Delivers (.answer 200 forkAnswer) answer ∧ Describes answer (.str "Fork") actions ∧
      actions.map typeOf = ["conditional-split", "send-email", "time-delay", "send-email"] := by
  obtain ⟨answer, hdelivers, hcheck⟩ := Client.exists_delivers forkAnswer (fun answer =>
    let attributes := (answer.member "data").member "attributes"
    let definition := attributes.member "definition"
    let actions := (definition.member "actions").orNone
    answer.isObject && (answer.member "data").isRecord && attributes.isRecord &&
      ((attributes.member "name").orElse (.str "")).same (.str "Fork") && definition.isRecord &&
      actions.isArrayOf Json.isObject && actions.items.map (fun a => (a.member "type").text) ==
        ["conditional-split", "send-email", "time-delay", "send-email"]) (by decide +kernel)
  simp only [Bool.and_eq_true, beq_iff_eq, Json.isArrayOf_iff] at hcheck
  obtain ⟨⟨⟨⟨⟨⟨hobject, hdata⟩, hattributes⟩, hname⟩, hdefinition⟩, vs, hvs, hobjects⟩, htypes⟩ :=
    hcheck
  obtain ⟨actions, rfl⟩ := Json.exists_members hobjects
  rw [hvs, Json.items, List.map_map] at htypes
  exact ⟨answer, actions, hdelivers,
    ⟨hobject, hdata, hattributes, Json.same_str_iff.mp hname, hdefinition, hvs⟩, htypes⟩

theorem fork_verified : ∃ answer actions request, ∃ v : Verification,
    Describes answer (.str "Fork") actions ∧
      actions.map typeOf ≠ Flow.fork.actions.map Action.typeName ∧
      v.success = true ∧ v.mismatches = [] ∧
      (nearby.verify (.str "F1") (some .fork)).May [⟨request, .answer 200 forkAnswer⟩] (.ok v) := by
  obtain ⟨answer, actions, hdelivers, hanswer, htypes⟩ := exists_describes_fork
  have hsame : (Json.str "Fork").same Flow.fork.name = true ∧
      (actions.map typeOf : Multiset String) = Flow.fork.actions.map Action.typeName := by
    rw [htypes]
    decide
  obtain ⟨v, hrun, hsuccess, hmismatches, -⟩ :=
    @verify_accepts nearby (.str "F1") _ _ .fork _ hanswer
  obtain ⟨request, hrequest, hkind⟩ := exists_ok_of_any
    (x := nearby.client.request "GET" ("/flows/" ++ (Json.str "F1").text ++ "/")
      (some [("additional-fields[flow]", "definition")]) none .empty)
    (q := fun request => request.url.checkKind.toOption.any fun _ => true) (by decide +kernel)
  obtain ⟨⟨⟩, hkind, -⟩ := exists_ok_of_any hkind
  have hget : (nearby.client.getFlow (.str "F1") true : Work Json).May _ (.ok answer) :=
    hdelivers.may_send hrequest hkind
  refine ⟨answer, actions, request, v, hanswer, ?_, hsuccess.mpr hsame, hmismatches.mpr hsame,
    fun s => ?_⟩
  · rw [htypes]
    decide
  · obtain ⟨u, hu, hexchanges⟩ := hget s
    exact ⟨u, (hrun s u s hu (.ok v) s).mpr ⟨rfl, rfl⟩, hexchanges⟩

end Creator

end MarketingFlow
