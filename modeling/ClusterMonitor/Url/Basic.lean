import ClusterMonitor.Url.Host

/-!
# URLs

URLs of the web schemes, in their usual form: schemes and hosts in lower case, ports left out where
they are the scheme's own, dot segments resolved, and all but plain characters escaped.

* `Url` — the parts of a URL, and `Url.text` its form.
* `Url.ofText?` — reads a URL. The authority of a URL of another scheme is checked before the
  scheme is refused.
-/

namespace ClusterMonitor

/-- The schemes that are spoken. -/
inductive WebScheme where
  | http
  | https
deriving DecidableEq, Repr

namespace WebScheme

def text : WebScheme → String
  | .http => "http"
  | .https => "https"

/-- The port that is meant when none is given. -/
def port : WebScheme → Nat
  | .http => 80
  | .https => 443

end WebScheme

/-- A URL of a web scheme. All texts are escaped. -/
structure Url where
  scheme : WebScheme
  username : String
  password : String
  host : Host
  /-- The port, if it is not the one of the scheme. -/
  port : Option Nat
  /-- The segments of the path; there is always one. -/
  path : List String
  query : Option String
  fragment : Option String
deriving DecidableEq, Repr

namespace Url

/-- The user and the password before a host. -/
def userText (u : Url) : String :=
  if u.username.isEmpty ∧ u.password.isEmpty then ""
  else if u.password.isEmpty then u.username ++ "@"
  else u.username ++ ":" ++ u.password ++ "@"

/-- The path with a slash before each segment. -/
def pathText (path : List String) : String := String.join (path.map ("/" ++ ·))

/-- The usual form. -/
def text (u : Url) : String :=
  u.scheme.text ++ "://" ++ u.userText ++ u.host.text ++
    ((u.port.map fun p => ":" ++ toString p).getD "") ++ pathText u.path ++
    ((u.query.map ("?" ++ ·)).getD "") ++ ((u.fragment.map ("#" ++ ·)).getD "")

/-! ## Escaping -/

/-- The characters that a fragment escapes besides control characters and all beyond ASCII. -/
def fragmentEscapes : List Char := [' ', '"', '<', '>', '\x60']

def pathEscapes : List Char := fragmentEscapes ++ ['#', '?', '\x7b', '\x7d']

def userEscapes : List Char := pathEscapes ++ "/:;=@[\\]^|".toList

def queryEscapes : List Char := [' ', '"', '#', '<', '>', '\'']

/-- A byte after a percent sign. -/
def escapeByte (b : UInt8) : List Char :=
  let digit (n : Nat) : Char := if n < 10 then Char.ofNat (48 + n) else Char.ofNat (55 + n)
  ['%', digit (b.toNat / 16), digit (b.toNat % 16)]

/-- A character, escaped if it is a control character, beyond ASCII, or among the given ones. -/
def escapeChar (escapes : List Char) (c : Char) : List Char :=
  if c.toNat < 0x20 ∨ 0x7F ≤ c.toNat ∨ escapes.contains c then
    (Text.encodeChar c).flatMap escapeByte
  else [c]

/-- A text with the given characters escaped. -/
def escape (escapes : List Char) (cs : List Char) : String :=
  String.ofList (cs.flatMap (escapeChar escapes))

/-! ## Reading -/

/-- The text without control characters and blanks at its ends, and without tabs and line ends
anywhere. -/
def cleaned (text : String) : List Char :=
  let isEdge (c : Char) : Bool := c.toNat ≤ 0x20
  let inner := ((text.toList.dropWhile isEdge).reverse.dropWhile isEdge).reverse
  inner.filter fun c => c ≠ '\t' ∧ c ≠ '\n' ∧ c ≠ '\r'

def isSchemeChar (c : Char) : Bool := c.isAlphanum || c == '+' || c == '-' || c == '.'

/-- The scheme in lower case, and what follows its colon. -/
def splitScheme? (cs : List Char) : Option (String × List Char) :=
  if cs.head?.any Char.isAlpha then
    match cs.dropWhile isSchemeChar with
    | ':' :: rest => some (String.ofList ((cs.takeWhile isSchemeChar).map Char.toLower), rest)
    | _ => none
  else none

/-- What kind of URLs a scheme has. -/
inductive SchemeKind where
  | web (scheme : WebScheme)
  /-- Other schemes whose URLs always have an authority. -/
  | hosted
  | file
  | other
deriving DecidableEq, Repr

def SchemeKind.ofName : String → SchemeKind
  | "http" => .web .http
  | "https" => .web .https
  | "ftp" => .hosted
  | "ws" => .hosted
  | "wss" => .hosted
  | "file" => .file
  | _ => .other

/-- Does the character end an authority? Where backslashes stand for slashes, they do. -/
def endsAuthority (backslash : Bool) (c : Char) : Bool :=
  c == '/' || c == '?' || c == '#' || (backslash && c == '\\')

/-- The authority at the start of a text, and the rest. -/
def splitAuthority (backslash : Bool) (cs : List Char) : List Char × List Char :=
  (cs.takeWhile fun c => !endsAuthority backslash c, cs.dropWhile fun c => !endsAuthority backslash c)

/-- The user part of an authority, if a sign ends one, and the host with its port. The last sign
counts. -/
def splitUser (authority : List Char) : Option (List Char) × List Char :=
  let host := (authority.reverse.takeWhile (· ≠ '@')).reverse
  if host.length = authority.length then (none, authority)
  else (some (authority.take (authority.length - host.length - 1)), host)

/-- User and password; the first colon divides them. -/
def userAndPassword (user : List Char) : List Char × List Char :=
  let name := user.takeWhile (· ≠ ':')
  (name, user.drop (name.length + 1))

/-- The host and what follows it: it ends at a colon that is not in brackets. -/
def splitHost (bracketed : Bool) : List Char → List Char × List Char
  | [] => ([], [])
  | c :: cs =>
    if c = ':' ∧ !bracketed then ([], c :: cs)
    else
      let bracketed := if c = '[' then true else if c = ']' then false else bracketed
      let (host, rest) := splitHost bracketed cs
      (c :: host, rest)

/-- The digits after the host: all of them, up to the largest port. -/
def readPort? (cs : List Char) : Except UrlFault (Option Nat) :=
  if cs.isEmpty then .ok none
  else if cs.all Char.isDigit then
    let n := cs.foldl (fun n c => n * 10 + (c.toNat - 48)) 0
    if n ≤ 65535 then .ok (some n) else .error .invalidPort
  else .error .invalidPort

/-- The port after a host, which a colon starts. -/
def portAfter : List Char → Except UrlFault (Option Nat)
  | ':' :: digits => readPort? digits
  | _ => .ok none

/-- Splits the host of an authority from its port. An empty host is refused. -/
def hostAndPort (text : List Char) : Except UrlFault (Host × Option Nat) := do
  let (hostText, portText) := splitHost false text
  if hostText.isEmpty then throw .emptyHost
  let host ← Host.ofText? hostText
  let port ← portAfter portText
  return (host, port)

/-- Is the segment the name of a drive, which no segment after it removes? -/
def isDrive : List Char → Bool
  | [c, d] => c.isAlpha && (d == ':' || d == '|')
  | _ => false

/-- A segment with its escapes of dots undone. -/
def dotsPlain : List Char → List Char
  | '%' :: '2' :: 'e' :: rest => '.' :: dotsPlain rest
  | '%' :: '2' :: 'E' :: rest => '.' :: dotsPlain rest
  | c :: rest => c :: dotsPlain rest
  | [] => []

/-- Adds a segment to the segments before it, the newest first. A single dot adds nothing, two dots
take the last segment away. -/
def addSegment (before : List (List Char)) (segment : List Char) : List (List Char) :=
  match dotsPlain segment with
  | ['.'] => before
  | ['.', '.'] =>
    match before with
    | last :: rest => if isDrive last then last :: rest else rest
    | [] => []
  | _ => segment :: before

/-- The path that segments make; after dots there is an empty segment at the end. -/
def resolve (before : List (List Char)) : List (List Char) → List (List Char)
  | [] => before.reverse
  | [last] =>
    match dotsPlain last with
    | ['.'] => ([] :: before).reverse
    | ['.', '.'] => ([] :: addSegment before last).reverse
    | _ => (last :: before).reverse
  | segment :: rest => resolve (addSegment before segment) rest

/-- The segments of a path text, which a slash of either kind may start. -/
def readPath (cs : List Char) : List String :=
  let cs := cs.map fun c => if c = '\\' then '/' else c
  let cs := match cs with
    | '/' :: rest => rest
    | _ => cs
  (resolve [] (Text.splitAt '/' cs)).map (escape pathEscapes)

/-- The texts before and after the first sign of a kind. -/
def splitAtFirst (sign : Char) (cs : List Char) : List Char × Option (List Char) :=
  match cs.dropWhile (· ≠ sign) with
  | [] => (cs, none)
  | _ :: rest => (cs.takeWhile (· ≠ sign), some rest)

/-- Reads what follows the scheme of a web URL. -/
def readWeb (scheme : WebScheme) (cs : List Char) : Except UrlFault Url := do
  let cs := cs.dropWhile fun c => c = '/' ∨ c = '\\'
  let (authority, rest) := splitAuthority true cs
  let (user, hostText) := splitUser authority
  let (username, password) := userAndPassword (user.getD [])
  let (host, port) ← hostAndPort hostText
  let (beforeFragment, fragment) := splitAtFirst '#' rest
  let (path, query) := splitAtFirst '?' beforeFragment
  return {
    scheme
    username := escape userEscapes username
    password := escape userEscapes password
    host
    port := port.filter (· ≠ scheme.port)
    path := readPath path
    query := query.map (escape queryEscapes)
    fragment := fragment.map (escape fragmentEscapes) }

/-- Checks what follows the scheme of a URL that needs an authority. -/
def checkHosted (cs : List Char) : Except UrlFault Unit := do
  let cs := cs.dropWhile fun c => c = '/' ∨ c = '\\'
  let _ ← hostAndPort (splitUser (splitAuthority true cs).1).2
  return ()

/-- Checks the host of a file URL, if it has one. -/
def checkFile (cs : List Char) : Except UrlFault Unit :=
  match cs with
  | a :: b :: rest =>
    if (a = '/' ∨ a = '\\') ∧ (b = '/' ∨ b = '\\') then
      let host := (splitAuthority true rest).1
      if host.isEmpty ∨ isDrive host then .ok () else (Host.ofText? host).map fun _ => ()
    else .ok ()
  | _ => .ok ()

/-- Checks the authority of a URL of any other scheme, if it has one. Such a host may be empty, but
not behind a user or before a port. -/
def checkOther (cs : List Char) : Except UrlFault Unit :=
  match cs with
  | '/' :: '/' :: rest => do
    let (authority, path) := splitAuthority false rest
    let (user, text) := splitUser authority
    let (username, password) := userAndPassword (user.getD [])
    let (hostText, portText) := splitHost false text
    if user = some [] ∧ text.isEmpty ∧ !path.isEmpty then throw .emptyHost
    Host.checkOpaque hostText
    if hostText.isEmpty ∧ !portText.isEmpty then throw .emptyHost
    let _ ← portAfter (portText.takeWhile (· ≠ '\\'))
    if hostText.isEmpty ∧ !(username.isEmpty ∧ password.isEmpty) then throw .emptyHost
    return ()
  | _ => .ok ()

/-- Reads a URL. -/
def ofText? (text : String) : Except UrlFault Url :=
  match splitScheme? (cleaned text) with
  | none => .error .relative
  | some (scheme, rest) =>
    let refuse (verdict : Except UrlFault Unit) : Except UrlFault Url :=
      verdict.bind fun _ => .error (.foreignScheme scheme)
    match SchemeKind.ofName scheme with
    | .web web => readWeb web rest
    | .hosted => refuse (checkHosted rest)
    | .file => refuse (checkFile rest)
    | .other => refuse (checkOther rest)

end Url

end ClusterMonitor
