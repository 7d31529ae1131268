import MarketingFlow.Service.Creator

/-!
# Content of created emails

The page of an email whose template could not be made beforehand is pushed into the template behind
the remote action. Remote actions do not carry the ids of the definition, so the n-th email of the
definition is taken for the n-th remote email action.
-/

namespace MarketingFlow

/-- A remote action sends emails, however its type is spelled. -/
def isEmailResource (resource : Json) : Except Failure Bool := do
  let type := (← (← resource.get "attributes").orEmpty.get "action_type").orElse (.str "")
  match type with
  | .str s =>
    let bare := (Text.lower s).toList.filter fun c => c != '-' && c != '_' && c != ' '
    return bare == "sendemail".toList || bare == "email".toList
  | v => throw (Failure.misuse (.noMember v.typeName "lower"))

namespace Creator

variable (k : Creator)

/-- Pushes one page into the template behind a remote action, or into a separate one where that
template takes none. Gives whether it was applied, and the warnings. -/
def applyOne (name : String) (remoteId html : Json) : Work (Bool × List String) := do
  let messages ← call (k.client.flowActionMessages remoteId)
    ("Fetch messages for \"" ++ name ++ "\"") 3
  let first ← Task.ofExcept (firstOf messages)
  let messageId := match first with
    | .obj ms => Members.value ms "id"
    | _ => .null
  if !messageId.given then
    return (false, ["No message found for \"" ++ name ++ "\". Apply template manually."])
  let template ← k.client.templateForMessage messageId
  let data := (← Task.ofExcept (template.orEmpty.get "data")).orEmpty
  let id ← Task.ofExcept (data.get "id")
  let editor := (← Task.ofExcept (do (← data.get "attributes").orEmpty.get "editor_type")).orElse
    (.str "UNKNOWN")
  let updated ← if id.given then update id editor else pure false
  if updated then return (true, [])
  let created ← call (k.client.createTemplate (.str (name ++ " (generated)")) html)
    ("Create template for \"" ++ name ++ "\"") 3
  let newId ← Task.ofExcept (createdId created)
  return (true, ["Template for \"" ++ name ++ "\" was created separately (" ++ newId.text ++
    "). Link it to the flow email manually."])
where
  firstOf (messages : Json) : Except Failure Json :=
    match messages with
    | .arr (m :: _) => .ok m
    | .arr [] => .ok .null
    | .str s => .ok (match Text.singles s with
      | first :: _ => .str first
      | [] => .null)
    | .obj ms => if ms.isEmpty then .ok .null else .error (Failure.misuse (.absentKey "0"))
    | v => if v.given then .error (Failure.misuse (.badOperand
        ("'" ++ v.typeName ++ "' object is not subscriptable"))) else .ok .null
  update (id editor : Json) : Work Bool := do
    match ← (call (k.client.updateTemplate id html .null)
        ("Update template for \"" ++ name ++ "\"") 3).result with
    | .ok _ =>
      Task.log .info ("Template " ++ id.text ++ " (" ++ editor.text ++ ") updated for \"" ++ name ++
        "\"")
      return true
    | .error f =>
      if f.remoteKind? = some .validation then
        Task.log .warning ("Template " ++ id.text ++ " (" ++ editor.text ++
          ") cannot be updated via API: " ++ f.message)
        return false
      else throw f

/-- Goes through the pairs of local and remote emails. Gives how many pages were applied, and the
warnings. -/
def applyEach (pages : Members) : List (Action × Json) → Work (Nat × List String)
  | [] => return (0, [])
  | (action, resource) :: rest => do
    let html := pages.value action.id
    if html.isNull then applyEach pages rest else
    let name := action.label.text
    let remoteId ← Task.ofExcept (resource.get "id")
    if !remoteId.given then
      let (applied, warnings) ← applyEach pages rest
      return (applied,
        ("Remote action for \"" ++ name ++ "\" has no id. Apply template manually.") :: warnings)
    let (here, warnings) ← match ← (k.applyOne name remoteId html).result with
      | .ok outcome => pure outcome
      | .error f => giveUp name f
    k.pause
    let (applied, more) ← applyEach pages rest
    return ((if here then 1 else 0) + applied, warnings ++ more)
where
  giveUp (name : String) (f : Failure) : Work (Bool × List String) := do
    if !f.foreseen then throw f
    Task.log .warning ("Failed to apply content to \"" ++ name ++ "\": " ++ f.message)
    return (false, ["Content for \"" ++ name ++ "\" could not be applied: " ++ f.message])

/-- Pushes pages into the templates behind the emails of a created flow. -/
def applyContent (flowId : Json) (f : Flow) (pages : Members) : Work (Nat × List String) := do
  if k.settling.toJson.given then
    Task.log .info "Waiting for the flow's actions to finalize..."
    Task.sleep k.settling
  let remote ← call (k.client.flowActions flowId) "Fetch flow actions" 3
  let ordered ← Task.ofExcept f.traverse
  let resources ← Task.ofExcept remote.iterate
  let pairs ← Task.ofExcept (correlate ordered resources "send-email" isEmailResource)
  k.applyEach pages pairs

end Creator

end MarketingFlow
