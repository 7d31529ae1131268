import MarketingFlow.Editor.Candidates
import MarketingFlow.Interaction.World

/-!
# Pages

What can be asked of a browser and of the page that it shows. `Browsing` is the monad of programs
over these calls that may fail. Finding an element tries its candidates one after the other: `find`
waits for each of them, `findOptional` only looks.
-/

namespace MarketingFlow.Editor

/-- Which match of a selector is meant. -/
inductive Position where
  | first
  | last
  deriving DecidableEq, Repr

def Position.name : Position → String
  | first => "first"
  | last => "last"

structure Element where
  selector : String
  position : Position

structure LaunchOptions where
  headless : Json
  slowMo : Json
  arguments : List String

inductive Call where
  | look (path : String)
  | timestamp
  | log (level : Level) (text : String)
  | launch (options : LaunchOptions)
  | openContext (storageState : Json) (width height : Nat)
  | openPage
  | setTimeout (milliseconds : Json)
  | close
  | url
  | locate (selector : String)
  | waitUntilVisible (e : Element) (timeout : Int)
  | isVisible (e : Element)
  | click (e : Element)
  | fill (e : Element) (value : Json)
  | setChecked (e : Element) (on : Bool)
  | boundingBox (e : Element)
  | goTo (url : String)
  | waitForUrl (pattern : String) (timeout : Int)
  | settle (milliseconds : Int)
  | screenshot (path : String)
  | moveMouse (x y : Number) (steps : Option Int)
  | pressMouse
  | releaseMouse
  | clickMouse (x y : Number)
  | pressKey (key : String)

def Call.Answer : Call → Type
  | look _ => Path.Found
  | timestamp => String
  | log _ _ => Unit
  | url => Json
  | isVisible _ => Except Failure Bool
  | boundingBox _ => Except Failure Json
  | _ => Except Failure Unit

abbrev Browser : Interface := ⟨Call, Call.Answer⟩

abbrev Browsing := ExceptT Failure (Program Browser)

namespace Browsing

variable {α : Type}

def ask (c : Call) : Browsing c.Answer :=
  ExceptT.lift (Program.ask (I := Browser) c)

def check (r : Except Failure α) : Browsing α :=
  ExceptT.mk (pure r)

def result (b : Browsing α) : Browsing (Except Failure α) :=
  ExceptT.lift b.run

def log (level : Level) (text : String) : Browsing Unit :=
  ask (.log level text)

def isFile (path : String) : Browsing Bool := do
  check (← Path.findFile (fun p => ask (.look p)) path)

end Browsing

open Browsing

def locate (selector : String) : Browsing Unit := do check (← ask (.locate selector))

def click (e : Element) : Browsing Unit := do check (← ask (.click e))

def fill (e : Element) (value : Json) : Browsing Unit := do check (← ask (.fill e value))

def isVisible (e : Element) : Browsing Bool := do check (← ask (.isVisible e))

def boundingBox (e : Element) : Browsing Json := do check (← ask (.boundingBox e))

def goTo (url : String) : Browsing Unit := do check (← ask (.goTo url))

/-- The address of the page, empty if it has none. -/
def pageUrl : Browsing String := do
  return ((← ask .url).orElse (.str "")).text

def notFound (candidates : Candidates) (errors : List String) : Failure :=
  Failure.uiStep ("No visible element for " ++ listLiteral candidates ++ ". Errors: " ++
    listLiteral errors) .null

/-- Waits for the candidates one by one. `errors` says why earlier ones were not found. -/
def findAmong (all : Candidates) (timeout : Int) (position : Position) (errors : List String) :
    Candidates → Browsing Element
  | [] => throw (notFound all errors)
  | candidate :: rest => do
    let e : Element := ⟨candidate, position⟩
    let look : Browsing Unit := do
      locate candidate
      check (← ask (.waitUntilVisible e timeout))
    match ← look.result with
    | .ok () => return e
    | .error f => findAmong all timeout position (errors ++ [candidate ++ ": " ++ f.message]) rest

def find (candidates : Candidates) (timeout : Int) (position : Position) : Browsing Element :=
  findAmong candidates timeout position [] candidates

def findOptional : Candidates → Browsing (Option Element)
  | [] => return none
  | candidate :: rest => do
    locate candidate
    let e : Element := ⟨candidate, .first⟩
    if ← isVisible e then return some e else findOptional rest

end MarketingFlow.Editor
