import MarketingFlow.Domain.Name
import MarketingFlow.Http.Escape

/-!
# Hosts

The host of an address is a number of a machine, short or long, or a name. A long number is written
in brackets. A name with other than plain characters is sent in its coded form, and shown as it
reads.
-/

namespace MarketingFlow.Host

/-- Four runs of digits with any code point between two of them. -/
def looksNumeric (cs : List Char) : Bool :=
  let runs := Text.splitWhere (!Text.isAsciiDigit ·) (Text.outline cs)
  let inner := runs.foldl (fun n run => n + (run.length - 1) / 2) 0
  runs.length ≤ 4 && runs.all (!·.isEmpty) && 4 ≤ runs.length + inner

/-- A number below 256 without zeros in front. -/
def isOctet (cs : List Char) : Bool :=
  !cs.isEmpty && cs.length ≤ 3 && cs.all Text.isAsciiDigit && (cs == ['0'] || cs.head? != some '0') &&
    Text.ofAsciiDigits cs ≤ 255

def isShortNumber (cs : List Char) : Bool :=
  let parts := Text.splitAt '.' cs
  parts.length == 4 && parts.all isOctet

/-- A group of a long number: one to four hexadecimal digits. -/
def isGroup (cs : List Char) : Bool :=
  !cs.isEmpty && cs.length ≤ 4 && cs.all fun c => (Text.hexValue? c).isSome

/-- The groups of a long number, whose last part may be a short number in place of two. -/
def groups? (cs : List Char) : Option (List (List Char)) :=
  let parts := Text.splitAt ':' cs
  let last := parts.getLastD []
  if parts.length < 3 then none
  else if last.contains '.' then
    if isShortNumber last then some (parts.dropLast ++ [['0'], ['0']]) else none
  else some parts

/-- The groups on one side of a gap. At the outer end, the gap itself leaves an empty part. -/
def isSide (parts : List (List Char)) : Bool :=
  parts == [[]] || parts.all isGroup

/-- Eight groups, or fewer with one gap among them that stands for zeros. -/
def areGroups (parts : List (List Char)) : Bool :=
  match (parts.drop 1).dropLast.findIdx? List.isEmpty with
  | none => parts.length == 8 && parts.all isGroup
  | some i =>
    let before := parts.take (i + 1)
    let after := parts.drop (i + 2)
    let count := ((before ++ after).filter (!·.isEmpty)).length
    isSide before && isSide after && count < 8 && parts.length ≤ 9

/-- A long number, with a zone behind a percent sign if there is one. -/
def isLongNumber (cs : List Char) : Bool :=
  let (number, zone) := Text.cut (· == '%') cs
  (zone.isEmpty || (1 < zone.length && !(zone.drop 1).contains '%')) &&
    (groups? number).any areGroups

def inBrackets? (cs : List Char) : Option (List Char) :=
  match cs with
  | '[' :: rest => if rest.getLast? == some ']' then some rest.dropLast else none
  | _ => none

/-- Marks that stand for themselves in a host. -/
def isSafe (c : Char) : Bool :=
  "!$&'()*+,;=\"`\x7b\x7d%|\\".toList.contains c

def flawed (kind : String) (cs : List Char) : Failure :=
  Failure.misuse (.badAddress ("Invalid " ++ kind ++ ": " ++ Text.quote (String.ofList cs)))

def read (cs : List Char) : Except Failure (List Char) := do
  let lowered := (Text.lower (String.ofList cs)).toList
  if cs.isEmpty then return []
  else if looksNumeric cs then
    if isShortNumber cs then return cs else throw (flawed "IPv4 address" cs)
  else
    match inBrackets? cs with
    | some number => if isLongNumber number then return number else throw (flawed "IPv6 address" cs)
    | none =>
      if cs.all Domain.Punycode.isPlain then Escape.write isSafe lowered
      else
        match Domain.Name.write lowered with
        | .ok name => return name
        | .error _ => throw (flawed "IDNA hostname" cs)

/-- The host as it is shown. -/
def shown (host : List Char) : Except Failure (List Char) :=
  if Domain.Label.codedSign.isPrefixOf host then
    match Domain.Name.read host with
    | .ok name => .ok name
    | .error flaw => .error { cause := .domain flaw }
  else .ok host

end MarketingFlow.Host
