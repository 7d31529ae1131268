import MarketingFlow.Http.Content
import MarketingFlow.Http.Header
import MarketingFlow.Interaction.World
import MarketingFlow.Json.Bytes

/-!
# The remote service

The calls that a build makes of the service that runs the flows. An answer other than success and
every failure on the way becomes a remote failure, whose kind depends on the status alone; callers
decide by it what to try again.
-/

namespace MarketingFlow

/-- Metrics, lists, images, templates and flow actions are always asked for at this revision. -/
def stableRevision : String := "2024-10-15"

def flowStatuses : List String := ["draft", "manual", "live"]

structure Client where
  baseUrl : String
  /-- The address that all others are seen from. -/
  base : Url
  apiKey : String
  revision : String

namespace RemoteKind

/-- The kind of failure that a status stands for. -/
def ofStatus (status : Int) : RemoteKind :=
  if status = 401 || status = 403 then auth
  else if status = 400 || status = 409 || status = 422 then validation
  else if status = 429 then rateLimited
  else if 500 ≤ status then server
  else other

end RemoteKind

def Failure.ofStatus (status : Int) (message : String) (body : Json) : Failure :=
  { cause := .remote (.ofStatus status) message (.int status) body }

namespace Json

/-- How many items, members or code points a value has. -/
def size : Json → Except Failure Nat
  | arr xs => .ok xs.length
  | obj ms => .ok ms.length
  | str s => .ok (Text.size s)
  | v => .error (Failure.misuse (.badOperand
      ("object of type '" ++ v.typeName ++ "' has no len()")))

end Json

namespace Client

variable {σ : Type}

def authorizationOf (apiKey : String) : String :=
  "Klaviyo-API-Key " ++ apiKey

/-- The client for a connection; slashes at the end of the address do not count. The address and the
values that go with every request have to be fit to be sent. -/
def ofConnection (c : Connection) : Except Failure Client := do
  match c.baseUrl with
  | .str address =>
    let address := Text.trimEndChar '/' address
    let base ← (← Url.read address).asBase
    let _ ← Header.read (.str (authorizationOf c.apiKey.text))
    return {
      baseUrl := address
      base := base
      apiKey := c.apiKey.text
      revision := ← Header.read c.revision }
  | v => throw (Failure.misuse (.noMember v.typeName "rstrip"))

/-- The document of a successful answer; no text at all is an empty object. -/
def readAnswer (text : String) : Except Failure Json :=
  if text.isEmpty then .ok (.obj []) else Json.readBytes (Text.spell text).toUTF8

/-- The body of a refusal: a document if it is one, else its text. -/
def readRefusal (text : String) : Except Failure Json :=
  match Json.readBytes (Text.spell text).toUTF8 with
  | .ok v => .ok v
  | .error f => if f.cause.isUnfit then .ok (.str text) else .error f

def detailOf (body : Json) : String :=
  match body with
  | .obj ms =>
    match Members.value ms "errors" with
    | .arr (.obj e :: _) =>
      (((Members.value e "detail").orElse (Members.value e "title")).orElse (.str "")).text
    | _ => ""
  | _ => ""

def networkFailure (message : String) : Failure :=
  { cause := .remote .network message .null .null }

/-- What goes over the wire for a path of the service or an absolute address. Credentials in the
address stand in for the key. -/
def request (c : Client) (method path : String) (query : Option Query.Pairs)
    (revision : Option String) (content : Content) : Except Failure Request := do
  let url ← Url.join c.base path
  let url ← match query with
    | some pairs => url.withQuery pairs
    | none => pure url
  let body ← content.toBody
  Failure.checkEncoding .ascii (String.ofList url.hostAndPort)
  return {
    method := method
    path := path
    url := url
    host := ← url.hostName
    revision := (revision.filter (!·.isEmpty)).getD c.revision
    authorization := match url.credentials? with
      | some (user, password) => Header.basic user password
      | none => authorizationOf c.apiKey
    body := body }

def send (c : Client) (method path : String) (query : Option Query.Pairs)
    (revision : Option String) (content : Content) : Task σ Json := do
  let target := method ++ " " ++ path
  Task.log .debug ("API request: " ++ target)
  let request ← Task.ofExcept (c.request method path query revision content)
  let reply ← Task.ask (.send request)
  match reply with
  | .timeout message => throw (networkFailure (target ++ " timed out: " ++ message))
  | .broken message => throw (networkFailure (target ++ " failed: " ++ message))
  | .unwritten f => throw f
  | .answer status text =>
    Task.ofExcept request.url.checkKind
    Task.log .debug ("API response: " ++ toString status ++ " " ++ path)
    if 200 ≤ status && status ≤ 299 then
      Task.ofExcept (readAnswer text)
    else
      let refusal ← Task.ofExcept (readRefusal text)
      let detail := detailOf refusal
      let message := target ++ " returned " ++ toString status ++
        (if detail.isEmpty then "" else ": " ++ detail)
      Task.log .error ("API error: " ++ message)
      throw (Failure.ofStatus status message refusal)

def get (c : Client) (path : String) (revision : Option String) : Task σ Json :=
  c.send "GET" path none revision .empty

/-- One page: its items and the address of the next one, if there is one. -/
def readPage (page : Json) : Except Failure (List Json × Json) := do
  let items ← (← page.get "data").orNone.iterate
  let next ← (← page.get "links").orEmpty.get "next"
  return (items, next)

/-- Asks for the page at an address that another page named. Only a text can be asked for. -/
def getNamed (c : Client) (address : Json) (revision : Option String) : Task σ Json := do
  match address with
  | .str path => c.get path revision
  | v =>
    Task.log .debug ("API request: GET " ++ v.text)
    throw (Failure.misuse (.badOperand
      ("Invalid type for url.  Expected str or httpx.URL, got <class '" ++ v.typeName ++ "'>: " ++
        v.literal)))

/-- All items of a collection, page after page. -/
def getAll (c : Client) (path : String) (revision : Option String) : Task σ (List Json) :=
  Task.loop
    (fun (address, items) => do
      let page ← c.getNamed address revision
      let (more, next) ← Task.ofExcept (readPage page)
      if next.given then return .inl (next, items ++ more)
      else return .inr (items ++ more))
    (.str path, [])

def entryOf (resource : Json) : Except Failure Json := do
  let id ← resource.get "id"
  let name ← (← resource.get "attributes").orEmpty.get "name"
  return .obj [("id", id), ("name", name)]

def listEntries (c : Client) (path : String) : Task σ (List Json) := do
  let resources ← c.getAll path (some stableRevision)
  Task.ofExcept (resources.mapM entryOf)

def metrics (c : Client) : Task σ (List Json) :=
  c.listEntries "/metrics/"

def lists (c : Client) : Task σ (List Json) :=
  c.listEntries "/lists/"

def createFlow (c : Client) (payload : Json) : Task σ Json := do
  Task.log .info "Creating flow via Klaviyo API..."
  let created ← c.send "POST" "/flows/" none none (.document payload)
  let data ← Task.ofExcept (do return (← created.get "data").orEmpty)
  let id ← Task.ofExcept (data.get "id")
  let name ← Task.ofExcept (do (← data.get "attributes").orEmpty.get "name")
  Task.log .info ("Flow created: " ++ id.text ++ " (" ++ name.text ++ ")")
  return created

def getFlow (c : Client) (id : Json) (withDefinition : Bool) : Task σ Json :=
  c.send "GET" ("/flows/" ++ id.text ++ "/")
    (if withDefinition then some [("additional-fields[flow]", "definition")] else none) none .empty

/-- The flows of the account, those with one status if it is given. -/
def listFlows (c : Client) (status : Json) : Task σ Json := do
  let query :=
    if status.given then some [("filter", "equals(status,\"" ++ status.text ++ "\")")] else none
  let page ← c.send "GET" "/flows/" query none .empty
  return (← Task.ofExcept (page.get "data")).orNone

def invalidStatus (status : Json) : Failure :=
  { cause := .value ("Invalid flow status " ++ status.literal ++ "; expected one of (" ++
      ", ".intercalate (flowStatuses.map Text.quote) ++ ")") }

def setFlowStatus (c : Client) (id status : Json) : Task σ Unit := do
  if !status.isOneOf (flowStatuses.map Json.str) then
    throw (invalidStatus status)
  let _ ← c.send "PATCH" ("/flows/" ++ id.text ++ "/") none none (.document (.obj
    [("data", .obj [("type", .str "flow"), ("id", id),
      ("attributes", .obj [("status", status)])])]))
  Task.log .info ("Flow " ++ id.text ++ " status updated to: " ++ status.text)

/-- The cheapest call that needs a valid key. -/
def ping (c : Client) : Task σ Unit := do
  let _ ← c.send "GET" "/flows/" (some [("page[size]", "1")]) none .empty

def testConnection (c : Client) : Task σ Bool := do
  match ← c.ping.result with
  | .ok _ =>
    Task.log .info "Klaviyo API connection successful."
    return true
  | .error f =>
    if f.remoteKind?.isSome then
      Task.log .error ("Klaviyo API connection failed: " ++ f.message)
      return false
    else throw f

def imageFromUrl (c : Client) (url name : Json) : Task σ Json := do
  Task.log .info ("Uploading image from URL: " ++ (name.orElse url).text)
  c.send "POST" "/images/" none (some stableRevision) (.document (.obj
    [("data", .obj [("type", .str "image"),
      ("attributes", .obj [("import_from_url", url),
        ("name", name.orElse (.str "flow-email-image")), ("hidden", .bool false)])])]))

/-- The file that a value names; only a text can name one. -/
def namedFile (file : Json) : Task σ String := do
  match file with
  | .str path =>
    Task.ofExcept ((Path.parts path).forM Path.check)
    let path := Path.resolve (← Task.ask .workingDirectory) path
    if ← Task.ofExcept (Path.Found.isFile path (← Task.ask (.look path))) then return path
    else throw { cause := .system .fileNotFound ("Image file not found: " ++ path) }
  | v => throw (Failure.misuse (.badOperand
      ("expected str, bytes or os.PathLike object, not " ++ v.typeName)))

def imageFromFile (c : Client) (file name : Json) : Task σ Json := do
  let path ← namedFile file
  let fileName := Path.name path
  let title := name.orElse (.str fileName)
  Task.log .info ("Uploading image from file: " ++ title.text)
  let content ← Task.ask (.fileBytes path)
  c.send "POST" "/image-upload/" none (some stableRevision)
    (.form [("name", title), ("hidden", .str "false")] "file" fileName content)

def flowActions (c : Client) (flowId : Json) : Task σ Json := do
  let page ← c.get ("/flows/" ++ flowId.text ++ "/flow-actions/") (some stableRevision)
  let actions := (← Task.ofExcept (page.get "data")).orNone
  let size ← Task.ofExcept actions.size
  Task.log .debug
    ("Found " ++ toString size ++ " flow actions for flow " ++ flowId.text)
  return actions

def flowActionMessages (c : Client) (actionId : Json) : Task σ Json := do
  let page ← c.get ("/flow-actions/" ++ actionId.text ++ "/flow-messages/") (some stableRevision)
  return (← Task.ofExcept (page.get "data")).orNone

/-- The revisions at which the template of a message is looked for, in order. -/
def templateRevisions (c : Client) : List String :=
  [c.revision, stableRevision, "2025-01-15", "2024-10-15.pre"].eraseDups

/-- Looks for the template of a message at one revision after the other. Messages that were created
through the newest revision are not visible at all others. A refusal of the key ends the search. -/
def templateAt (c : Client) (messageId : Json) : List String → Task σ Json
  | [] => do
    Task.log .debug
      ("No template found for message " ++ messageId.text ++ " across all revisions")
    return .null
  | revision :: rest => do
    let path := "/flow-messages/" ++ messageId.text ++ "/template/"
    match ← (c.get path (some revision)).result with
    | .error f =>
      match f.remoteKind? with
      | some .auth => throw f
      | some _ =>
        Task.log .debug
          ("Template fetch failed with revision " ++ revision ++ ": " ++ f.message)
        templateAt c messageId rest
      | none => throw f
    | .ok response =>
      let id ← Task.ofExcept (do (← response.get "data").orEmpty.get "id")
      if id.given then
        Task.log .debug
          ("Got template for message " ++ messageId.text ++ " via revision " ++ revision)
        return response
      else templateAt c messageId rest

def templateForMessage (c : Client) (messageId : Json) : Task σ Json :=
  c.templateAt messageId c.templateRevisions

def createTemplate (c : Client) (name : Json) (html : Json) : Task σ Json := do
  Task.log .info ("Creating template: " ++ name.text)
  let created ← c.send "POST" "/templates/" none (some stableRevision) (.document (.obj
    [("data", .obj [("type", .str "template"),
      ("attributes", .obj [("name", name), ("editor_type", .str "CODE"), ("html", html)])])]))
  let id ← Task.ofExcept (do (← created.get "data").orEmpty.get "id")
  Task.log .info ("Template created: " ++ id.text ++ " (" ++ name.text ++ ")")
  return created

/-- Replaces the text of a template, and its name if one is given. -/
def updateTemplate (c : Client) (id html name : Json) : Task σ Json := do
  Task.log .info ("Updating template: " ++ id.text)
  let attributes : Members :=
    ("html", html) :: (if name.given then [("name", name)] else [])
  c.send "PATCH" ("/templates/" ++ id.text ++ "/") none (some stableRevision) (.document (.obj
    [("data", .obj [("type", .str "template"), ("id", id), ("attributes", .obj attributes)])]))

end Client

end MarketingFlow
