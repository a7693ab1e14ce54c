import VpsManager.Go.Runes
import VpsManager.Js.Text
import VpsManager.Lib.Decimal

/- The URL standard for `http` and `https`, which are special schemes: how a text is parsed,
alone or against a base, and how the parts are written again. Parsing a host is left open,
and what becomes of other schemes. -/
namespace VpsManager.Js

inductive Scheme
  | http
  | https
  deriving DecidableEq, Repr

def Scheme.name : Scheme → String
  | .http => "http"
  | .https => "https"

def Scheme.defaultPort : Scheme → Nat
  | .http => 80
  | .https => 443

structure Url where
  scheme : Scheme
  username : List Char
  password : List Char
  /-- As it is serialized. -/
  host : String
  port : Option Nat
  path : List (List Char)
  query : Option (List Char)
  fragment : Option (List Char)
  deriving DecidableEq, Repr

namespace Url

def c0ControlSet (c : Char) : Bool := c.toNat ≤ 0x1F || 0x7E < c.toNat

def fragmentSet (c : Char) : Bool := c0ControlSet c || [' ', '"', '<', '>', '\x60'].contains c

def querySet (c : Char) : Bool := c0ControlSet c || [' ', '"', '#', '<', '>'].contains c

def specialQuerySet (c : Char) : Bool := querySet c || c == '\x27'

def pathSet (c : Char) : Bool := querySet c || ['?', '^', '\x60', '\x7b', '\x7d'].contains c

def userinfoSet (c : Char) : Bool :=
  pathSet c || ['/', ':', ';', '=', '@', '[', '\\', ']', '|'].contains c

def upperHex (n : Nat) : Char := Char.ofNat (if n < 10 then 48 + n else 55 + n)

def encodeByte (b : UInt8) : List Char := ['%', upperHex (b.toNat / 16), upperHex (b.toNat % 16)]

def encodeChar (set : Char → Bool) (c : Char) : List Char :=
  if set c then (String.utf8EncodeChar c).flatMap encodeByte else [c]

def percentEncode (set : Char → Bool) (chars : List Char) : List Char :=
  chars.flatMap (encodeChar set)

def isBlank (c : Char) : Bool := c.toNat ≤ 0x20

def isTabOrNewline (c : Char) : Bool := c == '\t' || c == '\n' || c == '\r'

/-- What is parsed: blanks and control characters at both ends are cut off, and tabs and line
breaks are removed everywhere. -/
def clean (chars : List Char) : List Char :=
  ((chars.dropWhile isBlank).rdropWhile isBlank).filter (!isTabOrNewline ·)

/-- With a special scheme a backslash counts as a slash. -/
def isSlash (c : Char) : Bool := c == '/' || c == '\\'

def startsWithSlash : List Char → Bool
  | [] => false
  | c :: _ => isSlash c

def endsPath (c : Char) : Bool := c == '?' || c == '#'

def endsAuthority (c : Char) : Bool := isSlash c || endsPath c

def isSingleDot (segment : List Char) : Bool :=
  [['.'], ['%', '2', 'e']].contains (segment.map Char.toLower)

def isDoubleDot (segment : List Char) : Bool :=
  [['.', '.'], ['.', '%', '2', 'e'], ['%', '2', 'e', '.'], ['%', '2', 'e', '%', '2', 'e']].contains
    (segment.map Char.toLower)

def addSegment (path : List (List Char)) (segment : List Char) : List (List Char) :=
  if isDoubleDot segment then path.dropLast
  else if isSingleDot segment then path
  else path ++ [segment]

/-- The last segment, which leaves an empty one if it is of dots. -/
def addLast (path : List (List Char)) (segment : List Char) : List (List Char) :=
  if isDoubleDot segment then path.dropLast ++ [[]]
  else if isSingleDot segment then path ++ [[]]
  else path ++ [segment]

def addSegments (path : List (List Char)) : List (List Char) → List (List Char)
  | [] => path
  | [segment] => addLast path segment
  | segment :: segments => addSegments (addSegment path segment) segments

def readPath (path : List (List Char)) (chars : List Char) : List (List Char) :=
  addSegments path ((chars.splitOnP isSlash).map (percentEncode pathSet))

def readFragment (url : Url) : List Char → Url
  | [] => url
  | _ :: chars => { url with fragment := some (percentEncode fragmentSet chars) }

/-- From the question mark or number sign on that ends the path. -/
def readQuery (url : Url) : List Char → Url
  | '?' :: chars =>
    readFragment
      { url with query := some (percentEncode specialQuerySet (chars.takeWhile (· != '#'))) }
      (chars.dropWhile (· != '#'))
  | chars => readFragment url chars

/-- The path state and what follows it. -/
def readRest (url : Url) (chars : List Char) : Url :=
  readQuery { url with path := readPath url.path (chars.takeWhile (!endsPath ·)) }
    (chars.dropWhile (!endsPath ·))

structure Authority where
  username : List Char
  password : List Char
  host : String
  port : Option Nat
  deriving DecidableEq, Repr

/-- The text up to the first colon outside of brackets, and what follows the colon. -/
def splitPort (inside : Bool) : List Char → List Char × Option (List Char)
  | [] => ([], none)
  | c :: chars =>
    if c = ':' ∧ inside = false then ([], some chars)
    else
      let inside := if c = '[' then true else if c = ']' then false else inside
      let (host, port) := splitPort inside chars
      (c :: host, port)

/-- No port is kept if there are no digits or it is the one of the scheme. -/
def readPort (scheme : Scheme) (chars : List Char) : Option (Option Nat) := do
  guard (chars.all Char.isDigit)
  if chars.isEmpty then return none
  let port := Decimal.digitsNumber chars
  guard (port ≤ 65535)
  return if port = scheme.defaultPort then none else some port

/-- The last at sign ends the user's name and password. -/
def readAuthority (hosts : List Char → Option String) (scheme : Scheme) (chars : List Char) :
    Option Authority := do
  let user := (chars.rdropWhile (· != '@')).dropLast
  let (text, portText) := splitPort false (chars.rtakeWhile (· != '@'))
  guard (text ≠ [])
  let host ← hosts text
  let port ← (portText.map (readPort scheme)).getD (some none)
  return {
    username := percentEncode userinfoSet (user.takeWhile (· != ':'))
    password := percentEncode userinfoSet ((user.dropWhile (· != ':')).drop 1)
    host := host
    port := port }

def authorityText (chars : List Char) : List Char := chars.takeWhile (!endsAuthority ·)

/-- The path and what follows it, without the slash in front. -/
def afterAuthority (chars : List Char) : List Char :=
  let rest := chars.dropWhile (!endsAuthority ·)
  if startsWithSlash rest then rest.drop 1 else rest

/-- What comes after the scheme and any slashes. -/
def readAbsolute (hosts : List Char → Option String) (scheme : Scheme) (chars : List Char) :
    Option Url := do
  let authority ← readAuthority hosts scheme (authorityText chars)
  return readRest
    ⟨scheme, authority.username, authority.password, authority.host, authority.port, [], none, none⟩
    (afterAuthority chars)

/-- The relative slash state. -/
def readSlash (hosts : List Char → Option String) (base : Url) (chars : List Char) : Option Url :=
  if startsWithSlash chars then
    readAbsolute hosts base.scheme (chars.dropWhile isSlash)
  else some (readRest { base with path := [], query := none, fragment := none } chars)

/-- The relative state. -/
def readRelative (hosts : List Char → Option String) (base : Url) : List Char → Option Url
  | [] => some { base with fragment := none }
  | c :: chars =>
    if isSlash c then readSlash hosts base chars
    else if c = '?' then
      some (readQuery { base with query := none, fragment := none } (c :: chars))
    else if c = '#' then some (readFragment { base with fragment := none } (c :: chars))
    else
      some (readRest { base with path := base.path.dropLast, query := none, fragment := none }
        (c :: chars))

def isSchemeChar (c : Char) : Bool := c.isAlphanum || c == '+' || c == '-' || c == '.'

/-- The name before the colon, in lower case, and what follows the colon. -/
def splitScheme (chars : List Char) : Option (List Char × List Char) :=
  match chars.dropWhile isSchemeChar with
  | ':' :: rest =>
    if (chars.head?.map Char.isAlpha).getD false then
      some ((chars.takeWhile isSchemeChar).map Char.toLower, rest)
    else none
  | _ => none

/-- What the constructor makes of a text; of a URL with another scheme nothing is kept. -/
inductive Parsed
  | invalid
  | other
  | url (found : Url)
  deriving DecidableEq, Repr

def Parsed.ofOption : Option Url → Parsed
  | none => .invalid
  | some found => .url found

/-- `hosts` parses a host, and `others` says which texts with another scheme are URLs. -/
structure Parser where
  hosts : List Char → Option String
  others : List Char → Option Url → Bool

/-- After a scheme that is the base's own, what does not begin with two slashes is relative. -/
def readSpecial (hosts : List Char → Option String) (scheme : Scheme) (base : Option Url)
    (chars : List Char) : Option Url :=
  match base with
  | some base =>
    if base.scheme = scheme ∧ chars.take 2 ≠ ['/', '/'] then readRelative hosts base chars
    else readAbsolute hosts scheme (chars.dropWhile isSlash)
  | none => readAbsolute hosts scheme (chars.dropWhile isSlash)

/-- `new URL(input, base)`. Surrogates without their pair are replaced before. -/
def parse (parser : Parser) (input : String) (base : Option Url) : Parsed :=
  let chars := clean input.toList
  match splitScheme chars with
  | some (name, rest) =>
    if name = Scheme.http.name.toList then .ofOption (readSpecial parser.hosts .http base rest)
    else if name = Scheme.https.name.toList then
      .ofOption (readSpecial parser.hosts .https base rest)
    else if parser.others chars base then .other
    else .invalid
  | none => .ofOption (base.bind fun base => readRelative parser.hosts base chars)

def origin (url : Url) : Scheme × String × Option Nat := (url.scheme, url.host, url.port)

/-- `url.origin`. -/
def originText (url : Url) : String :=
  url.scheme.name ++ "://" ++ url.host ++ (url.port.map fun port => ":" ++ toString port).getD ""

def pathname (url : Url) : List Char := url.path.flatMap ('/' :: ·)

/-- A query or fragment after its mark, if there is anything in it. -/
def marked (mark : Char) : Option (List Char) → List Char
  | none | some [] => []
  | some chars => mark :: chars

def search (url : Url) : List Char := marked '?' url.query

def hash (url : Url) : List Char := marked '#' url.fragment

end Url

end VpsManager.Js
