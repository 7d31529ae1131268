import MarketingFlow.Failure
import MarketingFlow.Text.Digit
import MarketingFlow.Decimal.Binary

/-!
# Reading documents

The reader takes the whole text and gives the document or the first thing wrong with it, with the
place where it was found. Besides standard documents it accepts `NaN` and the two infinities. Of
members with one key the last value counts, in the place of the first.
-/

namespace MarketingFlow.Json

inductive SyntaxProblem where
  | byteOrderMark
  | value
  | propertyName
  | colon
  | comma
  | unterminated
  | controlCharacter
  | escape
  | unicodeEscape
  | extraData
  deriving DecidableEq, Repr

def SyntaxProblem.message : SyntaxProblem → String
  | byteOrderMark => "Unexpected UTF-8 BOM (decode using utf-8-sig)"
  | value => "Expecting value"
  | propertyName => "Expecting property name enclosed in double quotes"
  | colon => "Expecting ':' delimiter"
  | comma => "Expecting ',' delimiter"
  | unterminated => "Unterminated string starting at"
  | controlCharacter => "Invalid control character at"
  | escape => "Invalid \\escape"
  | unicodeEscape => "Invalid \\uXXXX escape"
  | extraData => "Extra data"

/-- What stops the reader: a syntax problem at a character position, an integer with more digits
than are read, or an array or object inside of more others than are read. -/
inductive ReadError where
  | syntaxProblem (problem : SyntaxProblem) (position : Nat)
  | tooManyDigits (digits : Nat)
  | tooDeep (kind : String)
  deriving DecidableEq, Repr

/-- The rest of the text and the position where it starts. -/
structure Cursor where
  position : Nat
  rest : List Char

namespace Cursor

def fail {α : Type} (c : Cursor) (problem : SyntaxProblem) : Except ReadError α :=
  .error (.syntaxProblem problem c.position)

def advance (c : Cursor) (n : Nat) : Cursor :=
  ⟨c.position + n, c.rest.drop n⟩

def isGap (c : Char) : Bool :=
  c == ' ' || c == '\t' || c == '\n' || c == '\r'

def skipGap (c : Cursor) : Cursor :=
  c.advance (c.rest.takeWhile isGap).length

def startsWith (c : Cursor) (word : String) : Bool :=
  word.toList.isPrefixOf c.rest

end Cursor

def hexUnit? (a b c d : Char) : Option Nat := do
  let high := (← Text.hexValue? a) * 16 + (← Text.hexValue? b)
  let low := (← Text.hexValue? c) * 16 + (← Text.hexValue? d)
  return high * 256 + low

def plainEscape? (c : Char) : Option Char :=
  match c with
  | '"' => some '"'
  | '\\' => some '\\'
  | '/' => some '/'
  | 'b' => some '\x08'
  | 'f' => some '\x0c'
  | 'n' => some '\n'
  | 'r' => some '\r'
  | 't' => some '\t'
  | _ => none

/-- What has been read with one more code point, last character first. -/
def withCode (done : List Char) (n : Nat) : List Char :=
  (Text.ofCodePoint n).reverse ++ done

/-- Reads the characters of a string whose opening quote stood at `start`; `done` holds those read
so far, last first. Some character has to follow every `\u` escape. -/
def scanString (start position : Nat) (cs done : List Char) :
    Except ReadError (String × Cursor) :=
  match cs with
  | [] => .error (.syntaxProblem .unterminated start)
  | '"' :: rest => .ok (String.ofList done.reverse, ⟨position + 1, rest⟩)
  | ['\\'] => .error (.syntaxProblem .unterminated start)
  | '\\' :: 'u' :: a :: b :: c :: d :: '\\' :: 'u' :: e :: f :: g :: h :: next :: rest =>
    match hexUnit? a b c d with
    | none => .error (.syntaxProblem .unicodeEscape (position + 1))
    | some n =>
      if Text.isHighHalf n then
        match hexUnit? e f g h with
        | none => .error (.syntaxProblem .unicodeEscape (position + 7))
        | some m =>
          if Text.isLowHalf m then
            scanString start (position + 12) (next :: rest)
              (withCode done (Text.pairCode n m))
          else
            scanString start (position + 6) ('\\' :: 'u' :: e :: f :: g :: h :: next :: rest)
              (withCode done n)
      else
        scanString start (position + 6) ('\\' :: 'u' :: e :: f :: g :: h :: next :: rest)
          (withCode done n)
  | '\\' :: 'u' :: a :: b :: c :: d :: next :: rest =>
    match hexUnit? a b c d with
    | none => .error (.syntaxProblem .unicodeEscape (position + 1))
    | some n => scanString start (position + 6) (next :: rest) (withCode done n)
  | '\\' :: 'u' :: _ => .error (.syntaxProblem .unicodeEscape (position + 1))
  | '\\' :: c :: rest =>
    match plainEscape? c with
    | none => .error (.syntaxProblem .escape position)
    | some e => scanString start (position + 2) rest (e :: done)
  | c :: rest =>
    if c.toNat ≤ 0x1f then .error (.syntaxProblem .controlCharacter position)
    else scanString start (position + 1) rest (c :: done)
termination_by cs.length

def isExponentMark (c : Char) : Bool :=
  c == 'e' || c == 'E'

/-- The digits after a point, if the text goes on with a point and a digit. -/
def fractionOf (cs : List Char) : List Char :=
  match cs with
  | '.' :: rest => rest.takeWhile Text.isAsciiDigit
  | _ => []

/-- The sign, as written, and the digits of an exponent, if the text goes on with one. -/
def exponentOf (cs : List Char) : Option (List Char × List Char) :=
  match cs with
  | m :: rest =>
    if isExponentMark m then
      let sign := match rest with
        | '+' :: _ => ['+']
        | '-' :: _ => ['-']
        | _ => []
      let digits := (rest.drop sign.length).takeWhile Text.isAsciiDigit
      if digits.isEmpty then none else some (sign, digits)
    else none
  | [] => none

def scanNumber (c : Cursor) : Except ReadError (Json × Cursor) :=
  let negative := c.rest.head? == some '-'
  let start := if negative then c.advance 1 else c
  let whole := match start.rest with
    | '0' :: _ => ['0']
    | cs => cs.takeWhile Text.isAsciiDigit
  if whole.isEmpty then c.fail .value else
  let afterWhole := start.advance whole.length
  let fraction := fractionOf afterWhole.rest
  let afterFraction :=
    if fraction.isEmpty then afterWhole else afterWhole.advance (fraction.length + 1)
  match fraction, exponentOf afterFraction.rest with
  | [], none =>
    if Text.maxDigits < whole.length then .error (.tooManyDigits whole.length) else
    let n : Int := Text.ofAsciiDigits whole
    .ok (.int (if negative then -n else n), afterWhole)
  | _, exponent =>
    let (sign, digits) := exponent.getD ([], [])
    let size : Int := Text.ofAsciiDigits digits
    let power := (if sign = ['-'] then -size else size) - fraction.length
    let x := Decimal.ofDecimal negative (Text.ofAsciiDigits (whole ++ fraction)) power
    let rest := match exponent with
      | none => afterFraction
      | some _ => afterFraction.advance (1 + sign.length + digits.length)
    .ok (.float x, rest)

mutual

/-- Reads one value that starts right at the cursor. The fuel bounds the number of calls; `depth` is
how many more arrays and objects may begin inside of each other. -/
def scanValue (fuel depth : Nat) (c : Cursor) : Except ReadError (Json × Cursor) :=
  match fuel with
  | 0 => c.fail .value
  | fuel + 1 =>
    match c.rest with
    | '"' :: rest => do
      let (s, c) ← scanString c.position (c.position + 1) rest []
      return (.str s, c)
    | '[' :: rest =>
      match depth with
      | 0 => .error (.tooDeep "array")
      | depth + 1 =>
        let c := Cursor.skipGap ⟨c.position + 1, rest⟩
        if c.rest.head? == some ']' then .ok (.arr [], c.advance 1)
        else scanItems fuel depth c []
    | '\x7b' :: rest =>
      match depth with
      | 0 => .error (.tooDeep "object")
      | depth + 1 =>
        let c := Cursor.skipGap ⟨c.position + 1, rest⟩
        if c.rest.head? == some '\x7d' then .ok (.obj [], c.advance 1)
        else scanMembers fuel depth c []
    | _ =>
      if c.startsWith "null" then .ok (.null, c.advance 4)
      else if c.startsWith "true" then .ok (.bool true, c.advance 4)
      else if c.startsWith "false" then .ok (.bool false, c.advance 5)
      else if c.startsWith "NaN" then .ok (.float (0 / 0), c.advance 3)
      else if c.startsWith "Infinity" then .ok (.float (1 / 0), c.advance 8)
      else if c.startsWith "-Infinity" then .ok (.float (-1 / 0), c.advance 9)
      else scanNumber c

/-- Reads items up to the closing bracket; `done` holds those read so far, last first. -/
def scanItems (fuel depth : Nat) (c : Cursor) (done : List Json) :
    Except ReadError (Json × Cursor) :=
  match fuel with
  | 0 => c.fail .value
  | fuel + 1 => do
    let (v, c) ← scanValue fuel depth c
    let c := c.skipGap
    match c.rest.head? with
    | some ']' => return (.arr (v :: done).reverse, c.advance 1)
    | some ',' => scanItems fuel depth (c.advance 1).skipGap (v :: done)
    | _ => c.fail .comma

/-- Reads members up to the closing brace. -/
def scanMembers (fuel depth : Nat) (c : Cursor) (done : List (String × Json)) :
    Except ReadError (Json × Cursor) :=
  match fuel with
  | 0 => c.fail .value
  | fuel + 1 =>
    match c.rest with
    | '"' :: rest => do
      let (key, c) ← scanString c.position (c.position + 1) rest []
      let c := c.skipGap
      if c.rest.head? != some ':' then c.fail .colon else
      let (v, c) ← scanValue fuel depth (c.advance 1).skipGap
      let c := c.skipGap
      let done := (key, v) :: done
      match c.rest.head? with
      | some '\x7d' => return (.obj (Members.ofEntries done.reverse), c.advance 1)
      | some ',' => scanMembers fuel depth (c.advance 1).skipGap done
      | _ => c.fail .comma
    | _ => c.fail .propertyName

end

/-- Reads characters that make up one document and nothing else but gaps around it, with at most
`depth` arrays and objects inside of each other. -/
def readUnmarked (depth : Nat) (cs : List Char) : Except ReadError Json := do
  let (v, c) ← scanValue (2 * cs.length + 2) depth (Cursor.mk 0 cs).skipGap
  let c := c.skipGap
  if c.rest.isEmpty then return v else c.fail .extraData

/-- How many arrays and objects of a file may begin inside of each other. -/
def deepestInFile : Nat := 984

/-- Reads the characters of a file, which has no mark of a byte order. -/
def readChars (cs : List Char) : Except ReadError Json :=
  if cs.head? == some '\ufeff' then (Cursor.mk 0 cs).fail .byteOrderMark
  else readUnmarked deepestInFile cs

/-- Reads a text of any depth. -/
def read (text : String) : Except ReadError Json :=
  readUnmarked text.length text.toList

/-- The line, the column in it (both from one) and the position of a problem, in code points. -/
def placeText (text : String) (position : Nat) : String :=
  let before := Text.outline (text.toList.take position)
  let line := before.count '\n' + 1
  let column := (before.reverse.takeWhile (· != '\n')).length + 1
  "line " ++ toString line ++ " column " ++ toString column ++
    " (char " ++ toString before.length ++ ")"

/-- The failure that reports a reading error in a text. -/
def ReadError.cause (text : String) : ReadError → Cause
  | syntaxProblem problem position =>
    .decode (problem.message ++ ": " ++ placeText text position)
  | tooManyDigits digits => .tooManyDigits digits
  | tooDeep kind => .tooDeep kind

end MarketingFlow.Json
