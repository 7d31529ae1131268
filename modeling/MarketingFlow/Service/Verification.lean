import MarketingFlow.Service.Creator

/-!
# Verification

A created flow is compared with its definition: the name, the number of actions and their types in
any order. Without a definition only what the service has is reported.
-/

namespace MarketingFlow

/-- The comparison of a created flow with its definition. -/
structure Verification where
  flowId : Json
  flowName : Json
  expectedActions : Nat
  actualActions : Nat
  mismatches : List String

namespace Verification

def success (v : Verification) : Bool :=
  v.mismatches.isEmpty

def sorted (texts : List String) : List String :=
  texts.mergeSort Text.inOrder

structure Remote where
  id : Json
  name : Json
  actions : Json
  size : Nat

/-- The parts of an answer about a flow with its definition. -/
def Remote.ofAnswer (answer : Json) : Except Failure Remote := do
  let data := (← answer.get "data").orEmpty
  let attributes := (← data.get "attributes").orEmpty
  let actions := (← (← attributes.get "definition").orEmpty.get "actions").orNone
  return {
    id := ← data.get "id"
    name := (← attributes.get "name").orElse (.str "")
    actions := actions
    size := ← actions.size }

/-- The differences between a definition and what the service has. -/
def compare (f : Flow) (r : Remote) : Except Failure (List String) := do
  let name := if r.name.same f.name then [] else
    ["Flow name is \"" ++ r.name.text ++ "\", expected \"" ++ f.name.text ++ "\"."]
  let count := if r.size = f.actions.length then [] else
    ["Flow has " ++ toString r.size ++ " action(s), expected " ++ toString f.actions.length ++ "."]
  let expected := sorted (f.actions.map Action.typeName)
  let actual := sorted (← (← r.actions.iterate).mapM fun a => do return (← a.get "type").text)
  let types := if expected = actual then [] else
    ["Action types differ: expected " ++ listLiteral expected ++ ", got " ++ listLiteral actual ++
      "."]
  return name ++ count ++ types

end Verification

namespace Creator

variable (k : Creator)

def verify (flowId : Json) (definition : Option Flow) : Work Verification := do
  let remote ← Task.ofExcept (Verification.Remote.ofAnswer (← k.client.getFlow flowId true))
  let id := remote.id.orElse flowId
  match definition with
  | none => return ⟨id, remote.name, remote.size, remote.size, []⟩
  | some f =>
    let mismatches ← Task.ofExcept (Verification.compare f remote)
    return ⟨id, remote.name, f.actions.length, remote.size, mismatches⟩

end Creator

end MarketingFlow
