import MarketingFlow.Decimal.Layout
import MarketingFlow.Json.Basic
import MarketingFlow.Text.Quoted

/-!
# Writing documents

Documents as text. The spacing is a parameter, and so is whether the text keeps to ASCII: then every
other character is escaped by its UTF-16 units.
-/

namespace MarketingFlow.Json

/-- What stands between items and between a key and its value, and whether all characters outside
of ASCII are escaped. -/
structure Style where
  item : String
  key : String
  onlyAscii : Bool

def Style.compact : Style := ⟨",", ":", true⟩

def Style.loose : Style := ⟨", ", ": ", true⟩

def Style.sent : Style := ⟨",", ":", false⟩

def unitEscape (n : Nat) : List Char :=
  '\\' :: 'u' :: Text.hexDigits 4 n

def escapeCode (onlyAscii : Bool) (n : Nat) : List Char :=
  if n = '"'.toNat || n = '\\'.toNat then ['\\', Char.ofNat n]
  else if n = '\n'.toNat then ['\\', 'n']
  else if n = '\r'.toNat then ['\\', 'r']
  else if n = '\t'.toNat then ['\\', 't']
  else if n = '\x0c'.toNat then ['\\', 'f']
  else if n = '\x08'.toNat then ['\\', 'b']
  else if 0x20 ≤ n && (n < 0x7f || !onlyAscii) then Text.ofCodePoint n
  else if n < 0x10000 then unitEscape n
  else
    unitEscape (0xd800 + (n - 0x10000) / 0x400) ++ unitEscape (0xdc00 + (n - 0x10000) % 0x400)

def writeString (onlyAscii : Bool) (s : String) : String :=
  String.ofList ('"' :: (Text.codePoints s.toList).flatMap (escapeCode onlyAscii) ++ ['"'])

mutual

def write (style : Style) : Json → String
  | null => "null"
  | bool b => if b then "true" else "false"
  | int n => toString n
  | float x => Decimal.Layout.document.write x
  | str s => writeString style.onlyAscii s
  | arr xs => "[" ++ style.item.intercalate (writeItems style xs) ++ "]"
  | obj ms => "\x7b" ++ style.item.intercalate (writeMembers style ms) ++ "\x7d"

def writeItems (style : Style) : List Json → List String
  | [] => []
  | x :: xs => write style x :: writeItems style xs

def writeMembers (style : Style) : List (String × Json) → List String
  | [] => []
  | (k, v) :: ms =>
    (writeString style.onlyAscii k ++ style.key ++ write style v) :: writeMembers style ms

end

end MarketingFlow.Json
