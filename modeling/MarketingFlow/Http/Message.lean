import MarketingFlow.Http.Url
import MarketingFlow.Json.Basic

/-!
# Requests and replies

What goes to the remote service and what comes back: a status with a text, or a failure on the way.
The text of an answer consists of characters only.
-/

namespace MarketingFlow

/-- One part of a form. A file has a name of its own. -/
structure FormPart where
  name : String
  fileName : Option String
  content : ByteArray

inductive RequestBody where
  | empty
  | json (v : Json)
  | form (parts : List FormPart)

structure Request where
  method : String
  /-- What was asked for: a path of the service, or an address as it was written. -/
  path : String
  url : Url
  /-- The host as it is shown. -/
  host : String
  revision : String
  authorization : String
  body : RequestBody

inductive Reply where
  | answer (status : Int) (text : String)
  /-- No answer came in time. -/
  | timeout (message : String)
  /-- The connection failed. -/
  | broken (message : String)
  /-- The service failed to write an answer at all. -/
  | unwritten (f : Failure)

def Reply.isSuccess : Reply → Bool
  | answer status _ => 200 ≤ status && status ≤ 299
  | _ => false

end MarketingFlow
