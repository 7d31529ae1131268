import MarketingFlow.Failure
import MarketingFlow.Text.Base64
import MarketingFlow.Text.Encoding

/-!
# Headers

The values that go with every request. They are texts of ASCII characters only; a value with any
other character cannot be sent.
-/

namespace MarketingFlow.Header

/-- The text of a value that can be sent. -/
def read (value : Json) : Except Failure String :=
  match value with
  | .str s => do
    Failure.checkEncoding .ascii s
    return s
  | v => .error (Failure.misuse (.badOperand
      ("Header value must be str or bytes, not <class '" ++ v.typeName ++ "'>")))

/-- The value that tells who asks. -/
def basic (user password : String) : String :=
  "Basic " ++ String.ofList (Text.Base64.encode (Text.spell (user ++ ":" ++ password)).toUTF8.toList)

end MarketingFlow.Header
