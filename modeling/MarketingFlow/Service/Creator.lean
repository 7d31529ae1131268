import MarketingFlow.Email.Images
import MarketingFlow.Service.Client
import MarketingFlow.Service.Payload

/-!
# Creators

A creator builds flows through the service for one account. It keeps what is worth keeping from
build to build: the images it has hosted and the directories it has loaded. This module has the
creator, its calls of the service, and the templates it creates before the flow itself.
-/

namespace MarketingFlow

structure Creator where
  client : Client
  sender : Sender
  maxRetries : Int
  pacing : Number
  settling : Number

namespace Creator

/-- What a creator keeps from build to build: hosted images and the directories. -/
structure Memory where
  hosted : Email.Hosted
  directories : Directories

def Memory.empty : Memory := ⟨[], .empty⟩

abbrev Work := Task Memory

/-- The options under which directories load. -/
def directoryRetry : RetryOptions Number :=
  { RetryOptions.standard with retryable := RetryOptions.transient }

/-- Look-ups in the directories of the account that the client belongs to. -/
def accountNames (c : Client) (retry : RetryOptions Number) : NameService Directories :=
  NameService.ofLoaders (do return .arr (← c.metrics)) (do return .arr (← c.lists)) (some retry)

variable (k : Creator)

def names : NameService Memory :=
  (accountNames k.client directoryRetry).within Memory.directories
    fun m d => { m with directories := d }

def uploads : Email.Uploads Unit :=
  { uploader := fun path => k.client.imageFromFile (.str path) .null
    pacing := k.pacing
    retry := Email.Uploads.standardRetry }

/-- The page of a content with its local images hosted, and the warnings. -/
def prepare (content : Json) : Work (String × List String) :=
  (k.uploads.prepare content).within (fun m => (m.hosted, ())) fun m x => { m with hosted := x.1 }

/-- Makes a call of the service, again if its failure may pass. -/
def call {α : Type} (t : Work α) (label : String) (attempts : Int) : Work α :=
  t.retry label
    { RetryOptions.standard with maxAttempts := attempts, retryable := RetryOptions.transient }

def pause : Work Unit :=
  if k.pacing.toJson.given then Task.sleep k.pacing else pure ()

structure Letter where
  action : Action
  content : Json

def letters (actions : List Action) : List Letter :=
  actions.filterMap fun a =>
    match a.work with
    | .email e => if e.content.given then some ⟨a, e.content⟩ else none
    | _ => none

/-- What came of the templates that were created beforehand. -/
structure Precreation where
  /-- The pages by the ids of their actions. -/
  pages : Members
  templateIds : TemplateIds
  applied : Nat
  warnings : List String

def Precreation.none : Precreation := ⟨[], [], 0, []⟩

def createdId (answer : Json) : Except Failure Json := do
  (← answer.get "data").orEmpty.get "id"

/-- Prepares the pages in order and creates a template for each. A template that cannot be created
leaves a warning, and its email waits for the content pass. -/
def precreateEach : List Letter → Precreation → Work Precreation
  | [], done => return done
  | letter :: rest, done => do
    let label := letter.action.label
    let (html, warnings) ← k.prepare letter.content
    let done := { done with
      warnings := done.warnings ++ warnings
      pages := Members.set done.pages letter.action.id (.str html) }
    match ← (call (k.client.createTemplate label (.str html))
        ("Create template for \"" ++ label.text ++ "\"") 2).result with
    | .error f =>
      if !f.foreseen then throw f
      Task.log .warning ("Failed to create template for \"" ++ label.text ++ "\": " ++ f.message)
      precreateEach rest { done with
        warnings := done.warnings ++
          ["Template for \"" ++ label.text ++ "\" could not be pre-created."] }
    | .ok created =>
      let id ← Task.ofExcept (createdId created)
      let done := if id.given then
          { done with
            templateIds := Members.set done.templateIds letter.action.id id
            applied := done.applied + 1 }
        else done
      k.pause
      precreateEach rest done

def precreate (f : Flow) : Work Precreation := do
  let found := letters (← Task.ofExcept f.traverse)
  if found.isEmpty then return Precreation.none
  Task.log .info ("Pre-creating " ++ toString found.length ++ " email template(s)...")
  k.precreateEach found Precreation.none

end Creator

end MarketingFlow
