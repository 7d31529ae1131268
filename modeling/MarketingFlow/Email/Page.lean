import MarketingFlow.Json.Equality
import MarketingFlow.Json.Text
import MarketingFlow.Text.Search

/-!
# Email pages

The page of an email is a table with one row for each section of its content: images, texts,
buttons and spacers. Missing values get defaults. In addresses only the double quote is escaped, so
that an ampersand stays as it is; the text of a button is escaped fully; the text of a text section
is markup and stays as it is.
-/

namespace MarketingFlow.Email

/-- Keeps a value from ending the attribute it stands in. -/
def escapeAttribute (s : String) : String :=
  Text.replaceChars (fun c => if c = '"' then some "&quot;" else none) s

/-- Keeps a text from being read as markup. -/
def escapeMarkup (s : String) : String :=
  Text.replaceChars
    (fun c => match c with
      | '&' => some "&amp;"
      | '<' => some "&lt;"
      | '>' => some "&gt;"
      | '\'' => some "&#39;"
      | '"' => some "&#34;"
      | _ => none) s

def fontStack : String :=
  "-apple-system,BlinkMacSystemFont,'Segoe UI',Roboto,Helvetica,Arial,sans-serif"

/-- A member as it is written into the page; a missing one is empty. -/
def shown (ms : Members) (key : String) : String :=
  match ms.find? key with
  | some v => v.text
  | none => ""

/-- The pair that one element of a list of pairs stands for: anything with two parts, of which the
first can be a key. Keys that are no texts are never asked for and are left out. -/
def pairOf (v : Json) (position : Nat) : Except Failure (Option (String × Json)) := do
  let parts ← match v.iterate with
    | .ok parts => pure parts
    | .error _ => throw (Failure.misuse (.badOperand
        ("cannot convert dictionary update sequence element #" ++ toString position ++
          " to a sequence")))
  match parts with
  | [key, value] =>
    match ← key.asKey with
    | .str k => return some (k, value)
    | _ => return none
  | _ => throw (Failure.value ("dictionary update sequence element #" ++ toString position ++
      " has length " ++ toString parts.length ++ "; 2 is required"))

/-- The members of a section, which may also be given as a list of pairs. -/
def sectionMembers (v : Json) : Except Failure Members := do
  match v with
  | .obj ms => return ms
  | v =>
    let pairs ← (← v.iterate).zipIdx.mapM fun (p, i) => pairOf p i
    return Members.ofEntries (pairs.filterMap id)

def typeIs (ms : Members) (type : String) : Bool :=
  (ms.value "type").same (.str type)

def cornerRadius (ms : Members) : Json :=
  (ms.value "border_radius").unlessNull (.int 4)

/-- The size of a button's rounded corners in percent of its height. -/
def cornerPercent (radius : Json) : Except Failure Int := do
  match radius.number? with
  | some n => Number.round ((← n.divNat 48) * 100)
  | none => throw (Failure.misuse (.badOperand
      ("unsupported operand type(s) for /: '" ++ radius.typeName ++ "' and 'int'")))

/-- A section that is ready to be written; only buttons have corners. -/
structure Section where
  members : Members
  corners : Int

def readSection (v : Json) : Except Failure Section := do
  let ms ← sectionMembers v
  return ⟨ms, ← if typeIs ms "button" then cornerPercent (cornerRadius ms) else pure 0⟩

/-- Ten more than a padding. -/
def widerPadding (padding : Json) : Except Failure String := do
  match padding with
  | .str _ => throw (Failure.misuse (.badOperand "can only concatenate str (not \"int\") to str"))
  | .arr _ => throw (Failure.misuse (.badOperand "can only concatenate list (not \"int\") to list"))
  | v =>
    match v.number? with
    | some n => return (← n.add (.int 10)).toJson.text
    | none => throw (Failure.misuse (.badOperand
        ("unsupported operand type(s) for +: '" ++ v.typeName ++ "' and 'int'")))

def imageRow (pageWidth : Json) (ms : Members) : String :=
  let link := ms.value "link"
  let width := ((ms.value "width").orElse pageWidth).text
  let source := ((ms.find? "src").getD (.str "")).text
  let alt := ((ms.value "alt").orElse (.str "")).text
  "\n          <tr>\n" ++
  "            <td align=\"center\" valign=\"top\" style=\"padding:0;line-height:0;font-size:0;\">\n" ++
  "              " ++
  (if link.given then
    "<a href=\"" ++ escapeAttribute link.text ++ "\" target=\"_blank\" style=\"display:block;\">"
  else "") ++
  "<img src=\"" ++ escapeAttribute source ++ "\" alt=\"" ++ escapeAttribute alt ++
  "\" width=\"" ++ width ++ "\" class=\"fluid-image\" style=\"display:block;width:100%;max-width:" ++
  width ++ "px;height:auto;border:0;\" />" ++
  (if link.given then "</a>" else "") ++
  "\n            </td>\n          </tr>"

def textRow (ms : Members) : Except Failure String := do
  let padding := (ms.value "padding").unlessNull (.int 20)
  let wider ← widerPadding padding
  return "\n          <tr>\n            <td align=\"" ++
    ((ms.value "align").orElse (.str "center")).text ++
    "\" valign=\"top\" class=\"mobile-padding\" style=\"padding:" ++ padding.text ++ "px " ++ wider ++
    "px;font-family:" ++ fontStack ++ ";font-size:16px;line-height:1.5;color:#333333;\">\n" ++
    "              " ++ shown ms "html" ++ "\n            </td>\n          </tr>"

def buttonRow (ms : Members) (corners : Int) : Except Failure String := do
  let padding := (ms.value "padding").unlessNull (.int 20)
  let wider ← widerPadding padding
  let background := ((ms.value "background").orElse (.str "#000000")).text
  let color := ((ms.value "color").orElse (.str "#ffffff")).text
  let url := escapeAttribute ((ms.find? "url").getD (.str "")).text
  let text := escapeMarkup ((ms.find? "text").getD (.str "")).text
  return "\n          <tr>\n" ++
    "            <td align=\"center\" valign=\"top\" style=\"padding:" ++ padding.text ++ "px " ++
    wider ++ "px;\">\n" ++
    "              <!--[if mso]>\n" ++
    "              <v:roundrect xmlns:v=\"urn:schemas-microsoft-com:vml\" " ++
    "xmlns:w=\"urn:schemas-microsoft-com:office:word\" href=\"" ++ url ++
    "\" style=\"height:48px;v-text-anchor:middle;width:250px;\" arcsize=\"" ++ toString corners ++
    "%\" strokecolor=\"" ++ background ++ "\" fillcolor=\"" ++ background ++ "\">\n" ++
    "                <w:anchorlock/>\n" ++
    "                <center style=\"color:" ++ color ++
    ";font-family:sans-serif;font-size:16px;font-weight:bold;\">" ++ text ++ "</center>\n" ++
    "              </v:roundrect>\n" ++
    "              <![endif]-->\n" ++
    "              <!--[if !mso]><!-->\n" ++
    "              <a href=\"" ++ url ++
    "\" target=\"_blank\" class=\"mobile-button\" style=\"display:inline-block;background-color:" ++
    background ++ ";color:" ++ color ++ ";font-family:" ++ fontStack ++
    ";font-size:16px;font-weight:600;line-height:48px;text-align:center;text-decoration:none;" ++
    "border-radius:" ++ (cornerRadius ms).text ++ "px;padding:0 32px;min-width:200px;\">\n" ++
    "                " ++ text ++ "\n" ++
    "              </a>\n" ++
    "              <!--<![endif]-->\n" ++
    "            </td>\n          </tr>"

def spacerRow (ms : Members) : String :=
  let height := ((ms.value "height").orElse (.int 20)).text
  "\n          <tr>\n            <td style=\"padding:0;height:" ++ height ++ "px;line-height:" ++
    height ++ "px;font-size:1px;\">&nbsp;</td>\n          </tr>"

/-- The row of a section. A section of another type leaves a remark in the page. -/
def row (pageWidth : Json) (s : Section) : Except Failure String :=
  match s.members.value "type" with
  | .str "image" => .ok (imageRow pageWidth s.members)
  | .str "text" => textRow s.members
  | .str "button" => buttonRow s.members s.corners
  | .str "spacer" => .ok (spacerRow s.members)
  | _ => .ok "\n          <!-- Unknown section type -->"

def pageHead (width background : String) : String :=
  "<!DOCTYPE html>\n" ++
  "<html lang=\"en\" xmlns=\"http://www.w3.org/1999/xhtml\" " ++
  "xmlns:v=\"urn:schemas-microsoft-com:vml\" " ++
  "xmlns:o=\"urn:schemas-microsoft-com:office:office\">\n" ++
  "<head>\n" ++
  "  <meta charset=\"utf-8\">\n" ++
  "  <meta name=\"viewport\" content=\"width=device-width, initial-scale=1.0\">\n" ++
  "  <meta http-equiv=\"X-UA-Compatible\" content=\"IE=edge\">\n" ++
  "  <meta name=\"x-apple-disable-message-reformatting\">\n" ++
  "  <title></title>\n" ++
  "  <style>\n" ++
  "    body, table, td, a \x7b -webkit-text-size-adjust: 100%; -ms-text-size-adjust: 100%; \x7d\n" ++
  "    table, td \x7b mso-table-lspace: 0pt; mso-table-rspace: 0pt; \x7d\n" ++
  "    img \x7b -ms-interpolation-mode: bicubic; border: 0; height: auto; line-height: 100%; " ++
  "outline: none; text-decoration: none; \x7d\n" ++
  "    body \x7b margin: 0; padding: 0; width: 100% !important; height: 100% !important; \x7d\n" ++
  "    @media only screen and (max-width: 620px) \x7b\n" ++
  "      .email-container \x7b width: 100% !important; max-width: 100% !important; \x7d\n" ++
  "      .fluid-image \x7b width: 100% !important; max-width: 100% !important; " ++
  "height: auto !important; \x7d\n" ++
  "      .mobile-padding \x7b padding-left: 16px !important; padding-right: 16px !important; \x7d\n" ++
  "      .mobile-button \x7b width: 100% !important; \x7d\n" ++
  "    \x7d\n" ++
  "  </style>\n" ++
  "</head>\n" ++
  "<body style=\"margin:0;padding:0;background-color:#f4f4f4;font-family:" ++ fontStack ++ ";\">\n" ++
  "  <table role=\"presentation\" cellspacing=\"0\" cellpadding=\"0\" border=\"0\" width=\"100%\" " ++
  "style=\"background-color:#f4f4f4;\">\n" ++
  "    <tr>\n" ++
  "      <td align=\"center\" valign=\"top\" style=\"padding:20px 0;\">\n" ++
  "        <table role=\"presentation\" cellspacing=\"0\" cellpadding=\"0\" border=\"0\" width=\"" ++
  width ++ "\" class=\"email-container\" style=\"max-width:" ++ width ++ "px;background-color:" ++
  background ++ ";\">"

def pageTail : String :=
  "\n        </table>\n      </td>\n    </tr>\n  </table>\n</body>\n</html>"

/-- The sections of a content, if it has any. -/
def sectionsOf (content : Json) : Except Failure (List Json) := do
  (← content.get "sections").orElse (.arr []) |>.iterate

def page (content : Json) : Except Failure String := do
  let sections ← (← sectionsOf content).mapM readSection
  let width := (← content.get "width").orElse (.int 600)
  let background := (← content.get "background_color").orElse (.str "#ffffff")
  let rows ← sections.mapM (row width)
  return pageHead width.text background.text ++ String.join rows ++ pageTail

end MarketingFlow.Email
