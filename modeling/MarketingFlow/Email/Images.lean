import MarketingFlow.Email.Page
import MarketingFlow.Interaction.World
import MarketingFlow.Text.Blank

/-!
# Images of emails

Images that lie in local files are uploaded once each, and their hosted addresses take the place of
the paths in the page. An upload that fails leaves its path in the page and a warning.
-/

namespace MarketingFlow.Email

def isRemoteAddress (s : String) : Bool :=
  Text.startsWith s "http://" || Text.startsWith s "https://" || Text.startsWith s "data:"

/-- A source that is given, not blank and no remote address is a local path. -/
def isLocalFile (source : Json) : Except Failure Bool :=
  match source with
  | .str s => .ok (!Text.AllBlank s && !isRemoteAddress s)
  | v => if v.given then .error (Failure.misuse (.noMember v.typeName "strip")) else .ok false

/-- The sources of the image sections in order, each with whether it is local. -/
def imageSources (content : Json) : Except Failure (List (Json × Bool)) := do
  let found ← (← sectionsOf content).mapM fun s => do
    if !(← s.get "type").same (.str "image") then return none
    let source := (← s.get "src").orElse (.str "")
    return some (source, ← isLocalFile source)
  return found.filterMap id

/-- The paths of the local images, once each. -/
def localImages (content : Json) : Except Failure (List String) := do
  let sources ← imageSources content
  return (sources.filterMap fun
    | (.str path, true) => some path
    | _ => none).eraseDups

/-- Hosted addresses by local paths, in the order of the uploads. -/
abbrev Hosted := Members

/-- A section with a hosted source in place of a local one. -/
def hostSection (hosted : Hosted) (v : Json) : Except Failure Json := do
  if !(← v.get "type").same (.str "image") then return v
  match ← (← v.get "src").asKey with
  | .str path =>
    match v, hosted.find? path with
    | .obj ms, some url => return .obj (Members.set ms "src" url)
    | _, _ => return v
  | _ => return v

/-- The content with the hosted addresses of its images. -/
def hostContent (hosted : Hosted) (content : Json) : Except Failure Json := do
  let sections ← content.get "sections"
  if !sections.given then return content
  let replaced ← (← sections.iterate).mapM (hostSection hosted)
  match content, sections with
  | .obj ms, .arr _ => return .obj (Members.set ms "sections" (.arr replaced))
  | _, _ => return content

/-- The page of a content with the hosted addresses of its images. -/
def hostedPage (hosted : Hosted) (content : Json) : Except Failure String := do
  page (← hostContent hosted content)

/-- How images are uploaded: the uploader gives the service's answer for a path. -/
structure Uploads (σ : Type) where
  uploader : String → Task σ Json
  pacing : Number
  retry : RetryOptions Number

namespace Uploads

variable {σ : Type}

/-- Two attempts with a second between them. -/
def standardRetry : RetryOptions Number :=
  { RetryOptions.standard with maxAttempts := 2 }

/-- Pauses between uploads. A pause of zero is none. -/
def pause (u : Uploads σ) : Task (Hosted × σ) Unit :=
  if u.pacing.toJson.given then Task.sleep u.pacing else pure ()

def addressIn (answer : Json) : Except Failure Json := do
  (← (← answer.get "data").orEmpty.get "attributes").orEmpty.get "image_url"

/-- The hosted address of a path, uploaded if it is not hosted yet. -/
def upload (u : Uploads σ) (path : String) : Task (Hosted × σ) Json := do
  match (← get).1.find? path with
  | some url => return url
  | none =>
    let once : Task (Hosted × σ) Json :=
      (u.uploader path).within Prod.snd fun s x => (s.1, x)
    let answer ← once.retry ("Upload image " ++ path) u.retry
    let url ← Task.ofExcept (addressIn answer)
    if !url.given then
      throw (Failure.value ("Image upload for " ++ path ++ " returned no image_url"))
    modify fun s => (Members.set s.1 path url, s.2)
    Task.log .info ("Image hosted: " ++ path ++ " -> " ++ url.text)
    u.pause
    return url

/-- Uploads the paths in order and gives a warning for each failure. -/
def uploadAll (u : Uploads σ) : List String → Task (Hosted × σ) (List String)
  | [] => return []
  | path :: rest => do
    match ← (u.upload path).result with
    | .ok _ => uploadAll u rest
    | .error f =>
      Task.log .warning ("Image upload failed for " ++ path ++ ": " ++ f.message)
      let more ← uploadAll u rest
      return ("Image upload failed for \"" ++ path ++ "\": " ++ f.message) :: more

/-- Uploads the local images of a content and gives its page and the warnings. -/
def prepare (u : Uploads σ) (content : Json) : Task (Hosted × σ) (String × List String) := do
  let paths ← Task.ofExcept (localImages content)
  let warnings ← u.uploadAll paths
  let html ← Task.ofExcept (hostedPage (← get).1 content)
  return (html, warnings)

end Uploads

end MarketingFlow.Email
