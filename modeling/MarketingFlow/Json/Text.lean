import MarketingFlow.Decimal.Layout
import MarketingFlow.Failure
import MarketingFlow.Text.Quoted

/-!
# Values in running text

How a value reads inside a message: a text stands for itself at the top and is quoted inside an
array or an object.
-/

namespace MarketingFlow

namespace Json

mutual

def literal : Json → String
  | null => "None"
  | bool b => if b then "True" else "False"
  | int n => toString n
  | float x => Decimal.Layout.plain.write x
  | str s => Text.quote s
  | arr xs => "[" ++ ", ".intercalate (itemLiterals xs) ++ "]"
  | obj ms => "\x7b" ++ ", ".intercalate (memberLiterals ms) ++ "\x7d"

def itemLiterals : List Json → List String
  | [] => []
  | x :: xs => literal x :: itemLiterals xs

def memberLiterals : List (String × Json) → List String
  | [] => []
  | (k, v) :: ms => (Text.quote k ++ ": " ++ literal v) :: memberLiterals ms

end

def text : Json → String
  | str s => s
  | v => v.literal

@[simp] theorem text_str (s : String) : (str s).text = s := rfl

end Json

def listLiteral (ss : List String) : String :=
  (Json.strings ss).literal

end MarketingFlow
