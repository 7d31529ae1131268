import MarketingFlow.Text.Blank

/-!
# Variables in a file

A file of variables has one binding a line: a name, an equals sign and a value, with or without the
word `export` in front. Values may be quoted; a quoted value may go over several lines and knows
escapes. A number sign starts a remark. A line that is no binding is passed over. Inside values,
`$` and a name in braces stand for another variable.
-/

namespace MarketingFlow.Configuration

/-- A name without an equals sign has no value. -/
structure Binding where
  name : String
  value : Option String
  deriving DecidableEq, Repr

namespace Binding

open Text

def isInlineBlank (c : Char) : Bool :=
  isBlank c && c != '\n'

def skipInline (cs : List Char) : List Char :=
  cs.dropWhile isInlineBlank

/-- The text after the word `export` and the blanks that follow it. -/
def skipExport (cs : List Char) : List Char :=
  let word := "export".toList
  let rest := cs.drop word.length
  if word.isPrefixOf cs && rest.head?.any isInlineBlank then skipInline rest else cs

def isNameChar (c : Char) : Bool :=
  c != '=' && c != '#' && !isBlank c

/-- The name at the start of a line, with what follows it; a remark has none. Here and below an
error is the place where reading stopped. -/
def readName (cs : List Char) : Except (List Char) (Option String × List Char) :=
  match cs with
  | '#' :: _ => .ok (none, cs)
  | '\'' :: rest =>
    match rest.takeWhile (· != '\''), rest.dropWhile (· != '\'') with
    | c :: name, _ :: after => .ok (some (String.ofList (c :: name)), after)
    | _, _ => .error cs
  | _ =>
    match cs.takeWhile isNameChar with
    | [] => .error cs
    | name => .ok (some (String.ofList name), cs.dropWhile isNameChar)

/-- The text before the first bare mark, and the text after that mark. A backslash covers the
character that follows it. -/
def readQuoted (mark : Char) : List Char → Option (List Char × List Char)
  | [] => none
  | '\\' :: c :: rest =>
    (readQuoted mark rest).map fun (value, after) => ('\\' :: c :: value, after)
  | c :: rest =>
    if c = mark then some ([], rest)
    else (readQuoted mark rest).map fun (value, after) => (c :: value, after)

def unescape (swap : Char → Option Char) : List Char → List Char
  | '\\' :: c :: rest =>
    match swap c with
    | some d => d :: unescape swap rest
    | none => '\\' :: unescape swap (c :: rest)
  | c :: rest => c :: unescape swap rest
  | [] => []

def singleEscape (c : Char) : Option Char :=
  if c = '\\' || c = '\'' then some c else none

def doubleEscape (c : Char) : Option Char :=
  if c = '"' then some c
  else (singleEscape c).or ([('a', '\x07'), ('b', '\x08'), ('f', '\x0c'), ('n', '\n'), ('r', '\r'),
    ('t', '\t'), ('v', '\x0b')].lookup c)

/-- Drops a remark: a number sign after a blank, with all that follows. -/
def dropRemark : List Char → List Char
  | [] => []
  | c :: rest =>
    if isBlank c && (rest.dropWhile isBlank).head? == some '#' then [] else c :: dropRemark rest

/-- A value without quotes goes to the end of the line or to a remark. -/
def readBare (cs : List Char) : String :=
  String.ofList (trim (dropRemark (cs.takeWhile (· != '\n'))))

def readValue (cs : List Char) : Except (List Char) (String × List Char) :=
  let start := skipInline cs
  match start with
  | '\'' :: rest =>
    match readQuoted '\'' rest with
    | some (value, after) => .ok (String.ofList (unescape singleEscape value), after)
    | none => .error start
  | '"' :: rest =>
    match readQuoted '"' rest with
    | some (value, after) => .ok (String.ofList (unescape doubleEscape value), after)
    | none => .error start
  | _ => .ok (readBare cs, cs.dropWhile (· != '\n'))

/-- What follows a binding: at most a remark, up to the end of the line. -/
def endLine (cs : List Char) : Except (List Char) (List Char) :=
  let rest := match skipInline cs with
    | '#' :: remark => remark.dropWhile (· != '\n')
    | _ => cs
  match skipInline rest with
  | [] => .ok []
  | '\n' :: after => .ok after
  | _ => .error rest

def readLine (cs : List Char) : Except (List Char) (Option Binding × List Char) := do
  let (name, rest) ← readName (skipExport cs)
  let (value, rest) ← match skipInline rest with
    | '=' :: rest => do
      let (value, rest) ← readValue rest
      pure (some value, rest)
    | rest => pure (none, rest)
  return (name.map fun n => ⟨n, value⟩, ← endLine rest)

/-- The text after the mark for the order of bytes that it may start with. -/
def skipMark : List Char → List Char
  | '\ufeff' :: rest => rest
  | cs => cs

/-- The bindings of a text in order. After a line that cannot be read, reading goes on with the
next one. -/
def readAll (cs : List Char) : List Binding :=
  let start := cs.dropWhile isBlank
  match start with
  | [] => []
  | _ =>
    let (found, rest) := match readLine start with
      | .ok (found, rest) => (found, rest)
      | .error place => (none, (place.dropWhile (· != '\n')).drop 1)
    if rest.length < cs.length then found.toList ++ readAll rest else found.toList
termination_by cs.length

end Binding

/-- A part of a value: plain text, or a variable with the text that stands in for it. -/
inductive Piece where
  | plain (text : List Char)
  | reference (name substitute : String)

namespace Piece

/-- The name and the substitute in braces after a dollar sign, and what follows them. -/
def readBraces (cs : List Char) : Option ((String × String) × List Char) :=
  let stops := fun c => c == '\x7d' || c == ':'
  let name := String.ofList (cs.takeWhile (!stops ·))
  match cs.dropWhile (!stops ·) with
  | '\x7d' :: after => some ((name, ""), after)
  | ':' :: '-' :: rest =>
    match rest.dropWhile (· != '\x7d') with
    | _ :: after => some ((name, String.ofList (rest.takeWhile (· != '\x7d'))), after)
    | [] => none
  | _ => none

/-- The pieces of a value. `plainSoFar` is reversed. -/
def split (plainSoFar cs : List Char) : List Piece :=
  match cs with
  | [] => [plain plainSoFar.reverse]
  | '$' :: '\x7b' :: rest =>
    match readBraces rest with
    | some ((name, substitute), after) =>
      if after.length < rest.length then
        plain plainSoFar.reverse :: reference name substitute :: split [] after
      else [plain plainSoFar.reverse]
    | none => split ('$' :: plainSoFar) ('\x7b' :: rest)
  | c :: rest => split (c :: plainSoFar) rest
termination_by cs.length

end Piece

end MarketingFlow.Configuration
