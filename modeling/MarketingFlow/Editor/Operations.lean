import MarketingFlow.Editor.Page
import MarketingFlow.Files.Path
import MarketingFlow.Plan.Step
import MarketingFlow.Text.Case
import MarketingFlow.Text.Search

/-!
# Operations in the editor

How each operation of a plan is carried out by hand and mouse on the page of the visual editor.
-/

namespace MarketingFlow.Editor

open Browsing

/-- How an operator works: where pictures go, how long to look for an element, how long to wait
after an action, and in how many moves something is dragged. -/
structure Operator where
  screenshotDir : String := "./screenshots"
  findTimeout : Int := 5000
  settleMs : Int := 1000
  dragSteps : Int := 15

/-- The part of an address after the first `/flow/` that something other than a slash follows. -/
def flowIdIn (cs : List Char) : Option String :=
  let mark := "/flow/".toList
  match cs with
  | [] => none
  | c :: rest =>
    let id := ((c :: rest).drop mark.length).takeWhile (· != '/')
    if mark.isPrefixOf (c :: rest) && !id.isEmpty then some (String.ofList id) else flowIdIn rest

def currentFlow : Browsing (Option String) := do
  return flowIdIn (← pageUrl).toList

def measure (box : Json) (key : String) : Except Failure Number :=
  match box with
  | .obj ms =>
    match Members.find? ms key with
    | none => .error (Failure.misuse (.absentKey key))
    | some v =>
      match v.number? with
      | some n => .ok n
      | none => .error (Failure.misuse (.badOperand
          ("unsupported operand type: '" ++ v.typeName ++ "'")))
  | v => .error (Failure.misuse (.badOperand ("'" ++ v.typeName ++ "' object has no members")))

def middle (box : Json) (start side : String) : Except Failure Number := do
  (← measure box start).add (.float (← (← measure box side).divNat 2))

def offset (box : Json) (start : String) (distance : Int) : Except Failure Number := do
  (← measure box start).add (.int distance)

namespace Operator

variable (o : Operator)

/-- The first candidate that becomes visible in the usual time. -/
def await (candidates : Candidates) (position : Position) : Browsing Element :=
  find candidates o.findTimeout position

def settle : Browsing Unit := do
  if o.settleMs != 0 then
    check (← ask (.settle o.settleMs))

def clickOn (candidates : Candidates) (position : Position) : Browsing Unit := do
  click (← o.await candidates position)
  o.settle

def clickAndSettle (e : Element) : Browsing Unit := do
  click e
  o.settle

/-- Saves the open panel if it can be saved, and confirms it if asked to. -/
def savePanel : Browsing Unit := do
  match ← findOptional .save with
  | none => return
  | some save =>
    o.clickAndSettle save
    match ← findOptional .confirmAndSave with
    | none => return
    | some confirm => o.clickAndSettle confirm

def fillNumber (value : Json) : Browsing Unit := do
  fill (← o.await .numberField .first) (.str value.text)

/-- Chooses a unit where the panel offers units. -/
def chooseUnit (unit : Browsing String) : Browsing Unit := do
  match ← findOptional .unitDropdown with
  | none => return
  | some dropdown =>
    click dropdown
    o.clickOn (.option (← unit)) .first

/-- The time that the canvas of a flow may take to appear. -/
def canvasTimeout : Int := 20000

def awaitCanvas : Browsing Unit := do
  let _ ← find .canvas canvasTimeout .first

def createFlow (params : Members) : Browsing Unit := do
  if !Text.contains (← pageUrl) "/flows" then
    goTo flowsUrl
  o.clickOn .createFlow .first
  o.clickOn .buildYourOwn .first
  let name ← o.await .flowName .first
  fill name ((params.find? "name").getD (.str ""))
  o.clickOn .createFlow .last
  check (← ask (.waitForUrl "**/flow/**/edit" canvasTimeout))
  awaitCanvas
  log .info ("Flow created in builder: " ++ (← ask .url).text)

/-- The card of a trigger; it may be on the tab of the account's own metrics. -/
def triggerCard (label : String) : Browsing Element := do
  match ← findOptional (.text label) with
  | some card => return card
  | none =>
    match ← findOptional .yourMetrics with
    | some tab => o.clickAndSettle tab
    | none => pure ()
    o.await (.text label) .first

def selectTrigger (params : Members) : Browsing Unit := do
  let label := ((params.find? "label").getD (.str "")).text
  o.clickOn .triggerNode .first
  o.clickAndSettle (← o.triggerCard label)
  let list := params.value "list_name"
  if list.given then
    o.clickOn (.text list.text) .first
  o.savePanel
  log .info ("Trigger selected: " ++ label)

/-- Drags the entry of the sidebar onto the edge just above the end. The canvas takes notice of a
drag only if there are moves in between. -/
def addAction (params : Members) : Browsing Unit := do
  let label := ((params.find? "sidebar_label").getD (.str "")).text
  let source ← o.await (.text label) .first
  let target ← o.await .endNode .last
  let sourceBox ← boundingBox source
  let targetBox ← boundingBox target
  if !sourceBox.given || !targetBox.given then
    throw (Failure.uiStep ("Could not locate drag handles for \"" ++ label ++ "\"") .null)
  let fromX ← check (middle sourceBox "x" "width")
  let fromY ← check (middle sourceBox "y" "height")
  let toX ← check (middle targetBox "x" "width")
  let toY ← check (offset targetBox "y" (-30))
  check (← ask (.moveMouse fromX fromY none))
  check (← ask .pressMouse)
  check (← ask (.moveMouse toX toY (some o.dragSteps)))
  check (← ask .releaseMouse)
  o.settle

def configureDelay (params : Members) : Browsing Unit := do
  o.fillNumber ((params.find? "value").getD (.int 0))
  let unit := params.value "unit"
  if unit.given then
    o.chooseUnit (pure unit.text)
  o.savePanel

/-- Sets a switch where the panel has it; null leaves it as it is. -/
def setSwitch (candidates : Candidates) (value : Json) : Browsing Unit := do
  if value.isNull then return
  match ← findOptional candidates with
  | none => return
  | some e => check (← ask (.setChecked e value.given))

def configureMessage (params : Members) : Browsing Unit := do
  let name := params.value "name"
  if name.given then
    fill (← o.await .messageName .first) name
  setSwitch .smartSending (params.value "smart_sending")
  match params.value "channel" with
  | .str "email" => setSwitch .utmTracking (params.value "utm_tracking")
  | _ => pure ()
  o.savePanel

def configureSplit : Browsing Unit := do
  let _ ← o.await .configPanel .first
  o.savePanel

def configureVariants (params : Members) : Browsing Unit := do
  o.fillNumber ((params.find? "split_percentage").getD (.int 50))
  o.savePanel

/-- Clicks beside what is on the canvas. -/
def clickCanvas (canvas : Element) : Browsing Unit := do
  let box ← boundingBox canvas
  if box.given then
    let x ← check (offset box "x" 50)
    let y ← check (offset box "y" 50)
    check (← ask (.clickMouse x y))

def dismissPanel : Browsing Unit := do
  check (← ask (.pressKey "Escape"))
  match ← findOptional .canvas with
  | some canvas => clickCanvas canvas
  | none => pure ()
  o.settle

def reentryLabel (mode : Json) : Except Failure String := do
  let label := match ← mode.asKey with
    | .str name => reentryLabels.lookup name
    | _ => none
  match label with
  | some label => return label
  | none => throw (Failure.uiStep ("Unknown re-entry mode: " ++ mode.literal) .null)

def capitalized (unit : Json) : Except Failure String :=
  match unit with
  | .str s => .ok (Text.capitalize s)
  | v => .error (Failure.misuse (.noMember v.typeName "capitalize"))

/-- The number and the unit of a policy that depends on time. -/
def setReentryTime (params : Members) : Browsing Unit := do
  o.fillNumber (params.value "value")
  let unit := params.value "unit"
  if unit.given then
    o.chooseUnit (check (capitalized unit))

def setReentry (params : Members) : Browsing Unit := do
  let mode := (params.find? "mode").getD (.str "")
  let label ← check (reentryLabel mode)
  o.clickOn .triggerNode .first
  let _ ← o.await .reentrySection .first
  o.clickOn (.radio label) .first
  match mode with
  | .str "time-based" => o.setReentryTime params
  | _ => pure ()
  o.savePanel
  log .info ("Re-entry set: " ++ mode.text)

def carryOut (operation : Operation) (params : Members) : Browsing Unit :=
  match operation with
  | .createFlow => o.createFlow params
  | .selectTrigger => o.selectTrigger params
  | .addAction => o.addAction params
  | .configureDelay => o.configureDelay params
  | .configureMessage => o.configureMessage params
  | .configureSplit => o.configureSplit
  | .configureVariants => o.configureVariants params
  | .dismissPanel => o.dismissPanel
  | .setReentry => o.setReentry params

def unsupported (operation : String) (index : Int) : Failure :=
  Failure.uiStep ("Unsupported UI operation: " ++ operation) (.int index)

def perform (s : Step) : Browsing Unit := do
  log .debug ("Performing " ++ s.label ++ " " ++ (Json.obj s.params).literal)
  o.carryOut s.operation s.params

/-- Takes a picture of the whole page and gives the path of its file. -/
def takeScreenshot (name : String) : Browsing String := do
  let time : String ← ask .timestamp
  let path := Path.inside o.screenshotDir (time ++ "-" ++ name ++ ".png")
  check (← ask (.screenshot path))
  log .info ("Screenshot saved: " ++ path)
  return path

/-- Opens a flow that exists and waits for its canvas. -/
def openFlow (id : String) : Browsing Unit := do
  goTo (editUrl id)
  awaitCanvas

end Operator

end MarketingFlow.Editor
