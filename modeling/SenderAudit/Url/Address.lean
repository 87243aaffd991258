import SenderAudit.Url.Host

/-!
Addresses of web resources and their normal form. Addresses of other schemes are kept
without being understood.
-/
namespace SenderAudit

/-- What precedes the path of a web address: the user's credentials with an at sign after
them, the host, and the port if it is not the usual one. -/
structure Url.Origin where
  credentials : List Char
  host : List Char
  port : Option Nat
  deriving DecidableEq, Repr

structure Url where
  scheme : List Char
  origin : Option Url.Origin
  path : List Char
  query : Option (List Char)
  fragment : Option (List Char)
  deriving DecidableEq, Repr

namespace Url

def usualPorts : List (String × Nat) := [("http", 80), ("https", 443)]

def usualPort? (scheme : List Char) : Option Nat :=
  (usualPorts.find? (·.1.toList == scheme)).map (·.2)

/-! Writing. -/

def Origin.text (o : Origin) : List Char :=
  let port := match o.port with
    | none => []
    | some n => ':' :: (toString n).toList
  ['/', '/'] ++ o.credentials ++ o.host ++ port

def marked (sign : Char) : Option (List Char) → List Char
  | none => []
  | some s => sign :: s

def target (u : Url) : List Char :=
  u.path ++ marked '?' u.query

def characters (u : Url) : List Char :=
  u.scheme ++ ':' :: (u.origin.map (·.text)).getD [] ++ u.target ++ marked '#' u.fragment

def text (u : Url) : String :=
  String.ofList u.characters

def withoutCredentials (u : Url) : Url :=
  { u with origin := u.origin.map fun o => { o with credentials := [] } }

def isWeb (u : Url) : Bool :=
  (usualPort? u.scheme).isSome

def withParameter (u : Url) (name value : String) : Url :=
  let parameter := formEncoded name.toList ++ '=' :: formEncoded value.toList
  let query := match u.query with
    | none | some [] => parameter
    | some (c :: rest) => c :: rest ++ '&' :: parameter
  { u with query := some query }

/-! Reading. -/

/-- Without control characters and spaces at the ends, and without tabs and line ends. -/
def cleaned (input : String) : List Char :=
  let isEdge (c : Char) := c.toNat ≤ 0x20
  let inner := Text.dropTail isEdge (input.toList.dropWhile isEdge)
  inner.filter fun c => !(c == '\t' || c == '\n' || c == '\r')

def isSchemeChar : Char → Bool :=
  isAlphanumOr ['+', '-', '.']

def cutScheme? (s : List Char) : Option (List Char × List Char) :=
  match Text.cut ':' s with
  | some (c :: scheme, rest) =>
      if c.isAlpha && scheme.all isSchemeChar then some (Text.lower (c :: scheme), rest) else none
  | _ => none

def endsOrigin (c : Char) : Bool :=
  c == '/' || c == '\\' || c == '?' || c == '#'

/-- The credentials before the last at sign, and what follows it. -/
def cutCredentials (s : List Char) : List Char × List Char :=
  if s.contains '@' then
    let tail := (s.reverse.takeWhile (· != '@')).reverse
    (s.take (s.length - tail.length - 1), tail)
  else ([], s)

/-- Credentials with an at sign after them, unless both name and password are empty. -/
def credentialsText (s : List Char) : List Char :=
  let (name, password) := (Text.cut ':' s).getD (s, [])
  let password := if password.isEmpty then [] else ':' :: encoded inUserInfo password
  let both := encoded inUserInfo name ++ password
  if both.isEmpty then [] else both ++ ['@']

/-- The host, and what follows the first colon outside of brackets. -/
def cutPort : (inBrackets : Bool) → List Char → List Char × Option (List Char)
  | _, [] => ([], none)
  | inBrackets, c :: rest =>
      if c == ':' && !inBrackets then ([], some rest)
      else
        let inBrackets := if c == '[' then true else if c == ']' then false else inBrackets
        let (host, port) := cutPort inBrackets rest
        (c :: host, port)

def port? (scheme : List Char) : Option (List Char) → Except Fault (Option Nat)
  | none => .ok none
  | some s =>
      if !s.all Char.isDigit || Text.digitsValue s > 65535 then .error .badPort
      else if s.isEmpty || usualPort? scheme = some (Text.digitsValue s) then .ok none
      else .ok (some (Text.digitsValue s))

def readOrigin (scheme s : List Char) : Except Fault Origin := do
  let (credentials, rest) := cutCredentials s
  let (name, port) := cutPort false rest
  let host ← host name
  let port ← port? scheme port
  .ok { credentials := credentialsText credentials, host, port }

/-- A segment with its encoded dots written as dots. -/
def plainDots : List Char → List Char
  | '%' :: '2' :: 'e' :: rest | '%' :: '2' :: 'E' :: rest => '.' :: plainDots rest
  | c :: rest => c :: plainDots rest
  | [] => []

/-- Goes through the segments of a path; those passed stand last first. Two dots take the
segment before them away. -/
def walkPath : (passed : List (List Char)) → List (List Char) → List (List Char)
  | passed, [] => passed.reverse
  | passed, segment :: rest =>
      let dots := plainDots segment
      let isLast := rest.isEmpty
      if dots = ['.', '.'] then
        walkPath (if isLast then [] :: passed.tail else passed.tail) rest
      else if dots = ['.'] then walkPath (if isLast then [] :: passed else passed) rest
      else walkPath (encoded inPath segment :: passed) rest

def readPath (s : List Char) : List Char :=
  let body := match s with
    | '/' :: rest | '\\' :: rest => rest
    | s => s
  (walkPath [] (Text.splitWhere (fun c => c == '/' || c == '\\') body)).flatMap ('/' :: ·)

def cutMark (sign : Char) (s : List Char) : List Char × Option (List Char) :=
  match Text.cut sign s with
  | some (before, after) => (before, some after)
  | none => (s, none)

def readWeb (scheme rest : List Char) : Except Fault Url := do
  let s := rest.dropWhile fun c => c == '/' || c == '\\'
  let origin ← readOrigin scheme (s.takeWhile (!endsOrigin ·))
  let (s, fragment) := cutMark '#' (s.dropWhile (!endsOrigin ·))
  let (path, query) := cutMark '?' s
  .ok {
    scheme, origin := some origin, path := readPath path
    query := query.map (encoded inQuery), fragment := fragment.map (encoded inFragment) }

def readOpaque (scheme rest : List Char) : Url :=
  let (s, fragment) := cutMark '#' rest
  let (path, query) := cutMark '?' s
  { scheme, origin := none, path := encoded isControl path
    query := query.map (encoded inQuery), fragment := fragment.map (encoded inFragment) }

def parse (input : String) : Except Fault Url :=
  match cutScheme? (cleaned input) with
  | none => .error .relative
  | some (scheme, rest) =>
      if (usualPort? scheme).isSome then readWeb scheme rest
      else .ok (readOpaque scheme rest)

end Url

end SenderAudit
