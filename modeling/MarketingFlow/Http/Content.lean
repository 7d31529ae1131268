import MarketingFlow.Http.Message
import MarketingFlow.Failure
import MarketingFlow.Json.Equality
import MarketingFlow.Json.Printer
import MarketingFlow.Json.Text
import MarketingFlow.Text.Search

/-!
# Contents of requests

What a request is to carry, and the body that carries it, and likewise for an answer. A document needs numbers that can be
written and whole characters. A form has fields, one part for each value of a field, and then a
file.
-/

namespace MarketingFlow

namespace Json

mutual

/-- Every number in the value can be written in a document. -/
def isFinite : Json → Bool
  | float x => x.isFinite
  | arr xs => allFinite xs
  | obj ms => allFiniteMembers ms
  | _ => true

def allFinite : List Json → Bool
  | [] => true
  | x :: xs => isFinite x && allFinite xs

def allFiniteMembers : List (String × Json) → Bool
  | [] => true
  | (_, v) :: ms => isFinite v && allFiniteMembers ms

end

end Json

inductive Content where
  | empty
  | document (v : Json)
  | form (fields : Members) (fileField fileName : String) (file : ByteArray)

namespace Content

def valueText (v : Json) : Except Failure String :=
  match v with
  | .arr _ | .obj _ =>
    .error (Failure.misuse (.badOperand
      ("Invalid type for value. Expected primitive type, got <class '" ++ v.typeName ++ "'>: " ++
        v.literal)))
  | .null => .ok ""
  | .bool true => .ok "true"
  | .bool false => .ok "false"
  | v => .ok v.text

def fieldTexts (field : String × Json) : Except Failure (List (String × String)) := do
  let values := match field.2 with
    | .arr xs => xs
    | v => [v]
  return (← values.mapM valueText).map fun text => (field.1, text)

/-- Quotes, backslashes and controls in the name of a file are written as escapes. -/
def writtenName (fileName : String) : String :=
  Text.replaceChars (fun c =>
    if c = '"' then some "%22"
    else if c = '\\' then some "\\\\"
    else if c.toNat < 0x20 && c != '\x1b' then some (String.ofList (Escape.ofByte c.toUInt8))
    else none) fileName

/-- What a file's name is written after. -/
def nameStart : String := "filename=\""

def toBody : Content → Except Failure RequestBody
  | empty => .ok .empty
  | document .null => .ok .empty
  | document v => do
    if !v.isFinite then throw (Failure.value "Out of range float values are not JSON compliant")
    Failure.checkEncoding .utf8 (v.write .sent)
    return .json v
  | form fields fileField fileName file => do
    let texts := (← fields.mapM fieldTexts).flatten
    texts.forM fun field => Failure.checkEncoding .utf8 field.2
    let name := writtenName fileName
    Failure.checkEncoding .utf8 (nameStart ++ name)
    return .form (texts.map (fun field => ⟨field.1, none, (Text.spell field.2).toUTF8⟩) ++
      [⟨fileField, some name, file⟩])

end Content

/-- The answer that a service writes: a document if it has one, else a text. -/
def Reply.written (status : Int) (document : Json) (text : String) : Reply :=
  match (Content.document document).toBody with
  | .error f => .unwritten f
  | .ok (.json v) => .answer status (v.write .sent)
  | .ok _ =>
    match Failure.checkEncoding .utf8 text with
    | .error f => .unwritten f
    | .ok () => .answer status text

end MarketingFlow
