import SelfUpdate.Url.Host

/-!
# Addresses of the web

An address consists of a scheme, a host, perhaps a port, a path, and perhaps a
query and a fragment. Reading one is lenient: characters that addresses are not
made of are escaped, backslashes count as slashes, and a path is freed of `.` and
`..` segments. Credentials in front of the host are dropped. Only the two schemes of
the web are understood.
-/

namespace SelfUpdate

/-- An address of the web. Exchanges with a secure one are encrypted, and it has no port if it
is the usual one of its scheme. -/
structure Url where
  secure : Bool
  host : Url.Host
  port : Option Nat
  segments : List (List Char)
  query : Option (List Char)
  fragment : Option (List Char)
  deriving DecidableEq, Repr

namespace Url

/-- The name of the scheme of encrypted or plain exchanges. -/
def schemeName (secure : Bool) : List Char :=
  if secure then "https".toList else "http".toList

/-- The port that is meant without one. -/
def usualPort (secure : Bool) : Nat :=
  if secure then 443 else 80

/-- Whether a character is left out at both ends of an address. -/
def isPadding (character : Char) : Bool :=
  character.toNat ≤ 0x20

/-- The characters of an address that count: no padding, and no tabs or line endings
anywhere. -/
def relevant (text : List Char) : List Char :=
  let text := (text.dropWhile isPadding).reverse.dropWhile isPadding
  text.reverse.filter fun character => !(['\t', '\n', '\r'].contains character)

/-- Split off a scheme of the web. -/
def splitScheme? (text : List Char) : Option (Bool × List Char) :=
  let (scheme, rest) := text.span (· != ':')
  let scheme := scheme.map Char.toLower
  match rest with
  | [] => none
  | _ :: rest =>
      if scheme = schemeName true then some (true, rest)
      else if scheme = schemeName false then some (false, rest)
      else none

def isSlash (character : Char) : Bool :=
  character == '/' || character == '\\'

/-- The part of a text after the last of some character, or all of it. -/
def afterLast (mark : Char) (text : List Char) : List Char :=
  (text.reverse.takeWhile (· != mark)).reverse

/-- Read the digits of a port. Without any the usual port is meant. -/
def readPort? (secure : Bool) (digits : List Char) : Option (Option Nat) :=
  if digits.isEmpty then some none
  else do
    let port ← Text.numeral? 10 digits
    if 65535 < port then none
    else some (if port = usualPort secure then none else some port)

def readHost? (secure : Bool) (text : List Char) : Option (Host × Option Nat) := do
  let (host, rest) := text.span (· != ':')
  return (← Host.ofList? host, ← readPort? secure (rest.drop 1))

/-- Of how many dots a segment consists, if of nothing else. A dot may be escaped. -/
def dotCount : List Char → Option Nat
  | [] => some 0
  | '.' :: rest => (dotCount rest).map (· + 1)
  | '%' :: '2' :: 'e' :: rest => (dotCount rest).map (· + 1)
  | '%' :: '2' :: 'E' :: rest => (dotCount rest).map (· + 1)
  | _ => none

/-- Carry out what dot segments say: one dot stays, two dots go up. What is kept so far
has its last segment first. After dots at the end an empty segment remains. -/
def withoutDots : (kept : List (List Char)) → List (List Char) → List (List Char)
  | kept, [] => kept.reverse
  | kept, segment :: rest =>
      let ending := if rest.isEmpty then [[]] else []
      match dotCount segment with
      | some 1 => withoutDots (ending ++ kept) rest
      | some 2 => withoutDots (ending ++ kept.drop 1) rest
      | _ => withoutDots (segment :: kept) rest

/-- The segments of a path, which is empty or begins with a slash. -/
def pathSegments (path : List Char) : List (List Char) :=
  let segments := ((path.drop 1).map fun c => if isSlash c then '/' else c).splitOn '/'
  (withoutDots [] segments).map (encode pathEscapes)

def ofString? (text : String) : Option Url := do
  let (secure, rest) ← splitScheme? (relevant text.toList)
  let (authority, rest) := (rest.dropWhile isSlash).span fun character =>
    !(isSlash character || character == '?' || character == '#')
  let (host, port) ← readHost? secure (afterLast '@' authority)
  let (path, rest) := rest.span fun character => !(character == '?' || character == '#')
  let (query, rest) := rest.span (· != '#')
  return {
    secure, host, port
    segments := pathSegments path
    query := query.tail?.map (encode queryEscapes)
    fragment := rest.tail?.map (encode fragmentEscapes) }

/-- The host and the port, if there is one. -/
def authority (url : Url) : List Char :=
  url.host.letters ++ (url.port.elim [] fun port => ':' :: Nat.toDigits 10 port)

/-- The path and the query: what a host is asked for. -/
def target (url : Url) : List Char :=
  url.segments.flatMap ('/' :: ·) ++ (url.query.elim [] ('?' :: ·))

def letters (url : Url) : List Char :=
  schemeName url.secure ++ "://".toList ++ url.authority ++ url.target ++
    (url.fragment.elim [] ('#' :: ·))

end Url

end SelfUpdate
