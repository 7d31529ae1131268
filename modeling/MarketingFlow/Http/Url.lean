import MarketingFlow.Decimal.Numeral
import MarketingFlow.Http.Host
import MarketingFlow.Http.Query

/-!
# Addresses

A web address: where to go, and what to ask for there. Reading one checks its parts and brings them
into the form in which they are sent. A relative address is seen from a base: its path is appended
to the path of the base.
-/

namespace MarketingFlow

/-- An address in the form in which it is sent. A part that is not there is empty; a query and a
fragment may be there and be empty. -/
structure Url where
  scheme : List Char
  userInfo : List Char
  host : List Char
  port : Option Int
  path : List Char
  query : Option (List Char)
  fragment : Option (List Char)
  deriving DecidableEq, Repr

namespace Url

/-- The parts of a path without those that stay in place; `..` takes the part before it away, but
never the start of the path. `done` is reversed. -/
def dropDots (done : List (List Char)) : List (List Char) → List (List Char)
  | [] => done.reverse
  | ['.'] :: rest => dropDots done rest
  | ['.', '.'] :: rest => dropDots (if done = [[]] then done else done.tail) rest
  | part :: rest => dropDots (part :: done) rest

def withoutDots (path : List Char) : List Char :=
  ['/'].intercalate (dropDots [] (Text.splitAt '/' path))

def bad (text : String) : Failure :=
  Failure.misuse (.badAddress text)

/-! ## As it is written -/

/-- An address as it is written, taken apart. -/
structure Written where
  scheme : List Char
  authority : List Char
  path : List Char
  query : Option (List Char)
  fragment : Option (List Char)

def isSchemeStart (c : Char) : Bool :=
  c.isAlpha

def isSchemePart (c : Char) : Bool :=
  c.isAlphanum || c == '+' || c == '-' || c == '.'

/-- The scheme in front of a colon, which may be empty, and what follows. -/
def readScheme (cs : List Char) : List Char × List Char :=
  let (word, rest) := Text.cut (!isSchemePart ·) cs
  match rest with
  | ':' :: after => if word.head?.all isSchemeStart then (word, after) else ([], cs)
  | _ => ([], cs)

def isPathEnd (c : Char) : Bool :=
  c == '?' || c == '#'

namespace Written

def read (cs : List Char) : Written :=
  let (scheme, rest) := readScheme cs
  let (authority, rest) := match rest with
    | '/' :: '/' :: after => Text.cut (fun c => c == '/' || isPathEnd c) after
    | _ => ([], rest)
  let (path, rest) := Text.cut isPathEnd rest
  let (query, rest) := match rest with
    | '?' :: after => let (query, rest) := Text.cut (· == '#') after; (some query, rest)
    | _ => (none, rest)
  ⟨scheme, authority, path, query, rest.tail?⟩

/-- The user in front of the last `@`, and what follows it. -/
def userOf (authority : List Char) : List Char × List Char :=
  if authority.contains '@' then
    let after := authority.reverse.takeWhile (· != '@')
    ((authority.reverse.drop (after.length + 1)).reverse, after.reverse)
  else ([], authority)

/-- The host, up to a colon or the last bracket, and what follows it. -/
def hostOf (cs : List Char) : List Char × List Char :=
  let afterBracket := cs.reverse.takeWhile (· != ']')
  if cs.head? == some '[' && afterBracket.length < cs.length then
    (cs.take (cs.length - afterBracket.length), afterBracket.reverse)
  else Text.cut (· == ':') cs

def standardPorts : List (String × Int) :=
  [("ftp", 21), ("http", 80), ("https", 443), ("ws", 80), ("wss", 443)]

def portOf (scheme cs : List Char) : Except Failure (Option Int) :=
  let digits := if cs.head? == some ':' then cs.tail else cs
  if digits.isEmpty then .ok none
  else
    match Decimal.Numeral.readInt (String.ofList digits) with
    | .error _ => .error (bad ("Invalid port: " ++ Text.quote (String.ofList digits)))
    | .ok n => .ok (if standardPorts.lookup (String.ofList scheme) = some n then none else some n)

/-- Printable characters that stand for themselves in a fragment. -/
def isFragmentSafe (c : Char) : Bool :=
  0x20 < c.toNat && c.toNat < 0x7f && !"\"<>\x60".toList.contains c

def isQuerySafe (c : Char) : Bool :=
  0x20 < c.toNat && c.toNat < 0x7f && !"\"#<>".toList.contains c

def isPathSafe (c : Char) : Bool :=
  isQuerySafe c && !"?\x60\x7b\x7d".toList.contains c

def isUserSafe (c : Char) : Bool :=
  isPathSafe c && !"/;=@[\\]^|".toList.contains c

/-- Whether a path may stand where it does. -/
def checkPath (hasScheme hasAuthority : Bool) (path : List Char) : Except Failure Unit :=
  if hasAuthority then
    if path.isEmpty || path.head? == some '/' then .ok ()
    else .error (bad "For absolute URLs, path must be empty or begin with '/'")
  else if hasScheme then .ok ()
  else
    match path with
    | '/' :: '/' :: _ => .error (bad "Relative URLs cannot have a path starting with '//'")
    | ':' :: _ => .error (bad "Relative URLs cannot have a path starting with ':'")
    | _ => .ok ()

/-- Brings the parts into the form in which they are sent. Only with a scheme or a host does a path
have a fixed start, from which its dots count. -/
def toUrl (w : Written) : Except Failure Url := do
  let scheme := w.scheme.map Char.toLower
  let (user, rest) := userOf w.authority
  let (host, rest) := hostOf rest
  let userInfo ← Escape.write isUserSafe user
  let host ← Host.read host
  let port ← portOf scheme rest
  let hasAuthority := !userInfo.isEmpty || !host.isEmpty || port.isSome
  let isFixed := !scheme.isEmpty || hasAuthority
  checkPath (!scheme.isEmpty) hasAuthority w.path
  return {
    scheme := scheme
    userInfo := userInfo
    host := host
    port := port
    path := ← Escape.write isPathSafe (if isFixed then withoutDots w.path else w.path)
    query := ← w.query.mapM (Escape.write isQuerySafe)
    fragment := ← w.fragment.mapM (Escape.write isFragmentSafe) }

end Written

def isControl (c : Char) : Bool :=
  c.toNat < 0x20 || c.toNat = 0x7f

/-- The longest text that is read as an address, or as a part of one. -/
def longest : Nat := 65536

def read (text : String) : Except Failure Url := do
  let cs := text.toList
  let before := cs.takeWhile (!isControl ·)
  if longest < Text.size text then throw (bad "URL too long")
  match cs.drop before.length with
  | c :: _ =>
    throw (bad ("Invalid non-printable ASCII character in URL, " ++
      Text.quote (String.singleton c) ++ " at position " ++
        toString (Text.codePoints before).length ++ "."))
  | [] => (Written.read cs).toUrl

/-! ## As it is sent -/

/-- The host with its port, a long number in brackets. -/
def hostAndPort (u : Url) : List Char :=
  let host := if u.host.contains ':' then '[' :: u.host ++ [']'] else u.host
  match u.port with
  | some n => host ++ ':' :: (toString n).toList
  | none => host

def authority (u : Url) : List Char :=
  if u.userInfo.isEmpty then u.hostAndPort else u.userInfo ++ '@' :: u.hostAndPort

/-- A part with its sign in front, if it is there. -/
def signed (sign : Char) : Option (List Char) → List Char
  | some part => sign :: part
  | none => []

/-- What is asked for: the path, which is never empty, and the query. -/
def target (u : Url) : List Char :=
  (if u.path.isEmpty then ['/'] else u.path) ++ signed '?' u.query

def text (u : Url) : List Char :=
  (if u.scheme.isEmpty then [] else u.scheme ++ [':']) ++
    (if u.authority.isEmpty then [] else '/' :: '/' :: u.authority) ++ u.path ++
    signed '?' u.query ++ signed '#' u.fragment

/-- The address with another path and query. All parts are checked again. -/
def withParts (u : Url) (path : List Char) (query : Option (List Char)) : Except Failure Url := do
  let w : Written := ⟨u.scheme, u.authority, path, query, u.fragment⟩
  let parts := [("scheme", w.scheme), ("authority", w.authority), ("path", w.path)] ++
    (w.query.map fun q => ("query", q)).toList ++ (w.fragment.map fun f => ("fragment", f)).toList
  match parts.find? fun p => longest < p.2.length with
  | some (name, _) => throw (bad ("URL component '" ++ name ++ "' too long"))
  | none => w.toUrl

def withTarget (u : Url) (target : List Char) : Except Failure Url :=
  let (path, rest) := Text.cut (· == '?') target
  u.withParts path rest.tail?

def withQuery (u : Url) (pairs : Query.Pairs) : Except Failure Url := do
  u.withParts u.path (some (← Query.write pairs))

/-- The address as a base for others: its target ends in a slash. -/
def asBase (u : Url) : Except Failure Url :=
  if u.target.getLast? == some '/' then .ok u else u.withTarget (u.target ++ ['/'])

/-- The address says by itself where to go. -/
def isAbsolute (u : Url) : Bool :=
  !u.scheme.isEmpty && !u.host.isEmpty

def join (base : Url) (text : String) : Except Failure Url := do
  let there ← read text
  if there.isAbsolute then return there
  else base.withTarget (base.target ++ there.target.dropWhile (· == '/'))

/-! ## What it stands for -/

def route (u : Url) : String :=
  Escape.read (if u.path.isEmpty then ['/'] else u.path)

def pairs (u : Url) : Query.Pairs :=
  Query.read (u.query.getD [])

def hostName (u : Url) : Except Failure String := do
  return String.ofList (← Host.shown u.host)

/-- The name of a user and the password. -/
def credentials? (u : Url) : Option (String × String) :=
  let (user, password) := Text.cut (· == ':') u.userInfo
  let found := (Escape.read user, Escape.read (password.drop 1))
  if found.1.isEmpty && found.2.isEmpty then none else some found

/-- The text without an empty fragment at its end. -/
def textWithoutEnd (u : Url) : List Char :=
  if u.text.getLast? == some '#' then u.text.dropLast else u.text

/-- Refuses an address that does not say how to get there. -/
def checkKind (u : Url) : Except Failure Unit :=
  let (kind, rest) := Text.cut (fun c => c == '/' || c == ':') u.textWithoutEnd
  if !kind.isEmpty && rest.head? == some ':' then .ok ()
  else .error (Failure.value
    ("unknown url type: " ++ Text.quote (String.ofList u.textWithoutEnd)))

end Url

end MarketingFlow
