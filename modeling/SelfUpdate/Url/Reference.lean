import SelfUpdate.Url.Basic

/-!
# References to addresses

A reference is an address, or only its later parts; the rest is then taken from a
base address. Unlike addresses given by users, references are read strictly: every
part must consist of the characters allowed in it.
-/

namespace SelfUpdate.Url

/-- A reference by its parts. An address is a reference with a scheme. -/
structure Reference where
  scheme : Option (List Char)
  authority : Option (List Char)
  path : List Char
  query : Option (List Char)
  fragment : Option (List Char)
  deriving DecidableEq, Repr

/-- Whether a character may occur unescaped in every part that may have escapes. -/
def isCommon (character : Char) : Bool :=
  character.isAlphanum ||
    ['-', '.', '_', '~', '!', '$', '&', '\'', '(', ')', '*', '+', ',', ';', '='].contains
      character

/-- Whether a text consists of escapes and characters allowed in it. -/
def isMadeOf (isAllowed : Char → Bool) : List Char → Bool
  | [] => true
  | '%' :: high :: low :: rest =>
      (Text.numeral? 16 [high, low]).isSome && isMadeOf isAllowed rest
  | character :: rest => isAllowed character && isMadeOf isAllowed rest

/-- Whether a character may occur in a path besides escapes. -/
def isPathCharacter (character : Char) : Bool :=
  isCommon character || [':', '@', '/'].contains character

def isQueryCharacter (character : Char) : Bool :=
  isPathCharacter character || character == '?'

def isScheme : List Char → Bool
  | [] => false
  | first :: rest =>
      first.isAlpha &&
        rest.all fun character => character.isAlphanum || ['+', '-', '.'].contains character

/-- Whether a text is a host and perhaps a port. -/
def isHostAndPort (text : List Char) : Bool :=
  let isPort (rest : List Char) : Bool :=
    rest.isEmpty || (rest.head? == some ':' && (rest.drop 1).all Char.isDigit)
  match text with
  | '[' :: rest =>
      let (inside, rest) := rest.span (· != ']')
      let isInside (character : Char) : Bool :=
        character == ':' || character == '.' || (Text.digitValue character).isSome
      !inside.isEmpty && inside.all isInside && !rest.isEmpty && isPort (rest.drop 1)
  | _ =>
      let (host, rest) := text.span (· != ':')
      isMadeOf isCommon host && isPort rest

/-- Whether a text can stand between the two slashes and the path of an address. -/
def isAuthority (text : List Char) : Bool :=
  let (credentials, rest) := text.span (· != '@')
  match rest with
  | [] => isHostAndPort text
  | _ :: rest =>
      isMadeOf (fun character => isCommon character || character == ':') credentials &&
        isHostAndPort rest

namespace Reference

/-- Split off the scheme, if there is one: what stands before a colon that comes before
any slash, question mark or number sign. -/
def splitScheme (text : List Char) : Option (List Char) × List Char :=
  let (first, rest) := text.span fun character => !([':', '/', '?', '#'].contains character)
  match rest with
  | ':' :: rest => (some first, rest)
  | _ => (none, text)

/-- Split off the authority, if there is one. -/
def splitAuthority (text : List Char) : Option (List Char) × List Char :=
  match text with
  | '/' :: '/' :: rest =>
      let (authority, rest) := rest.span fun character => !(['/', '?', '#'].contains character)
      (some authority, rest)
  | _ => (none, text)

/-- The parts of a text, whatever characters they consist of. -/
def split (text : List Char) : Reference :=
  let (scheme, rest) := splitScheme text
  let (authority, rest) := splitAuthority rest
  let (path, rest) := rest.span fun character => !(['?', '#'].contains character)
  let (query, rest) := rest.span (· != '#')
  ⟨scheme, authority, path, query.tail?, rest.tail?⟩

/-- Whether every part consists of the characters allowed in it. -/
def isValid (reference : Reference) : Bool :=
  reference.scheme.all isScheme && reference.authority.all isAuthority &&
    isMadeOf isPathCharacter reference.path &&
    reference.query.all (isMadeOf isQueryCharacter) &&
    reference.fragment.all (isMadeOf isQueryCharacter)

def ofList? (text : List Char) : Option Reference :=
  let reference := split text
  if reference.isValid then some reference else none

def letters (reference : Reference) : List Char :=
  (reference.scheme.elim [] (· ++ [':'])) ++
    (reference.authority.elim [] ("//".toList ++ ·)) ++ reference.path ++
    (reference.query.elim [] ('?' :: ·)) ++ (reference.fragment.elim [] ('#' :: ·))

/-- A path after its dot segments have been carried out, which is done only if it begins
with a slash. -/
def settle (path : List Char) : List Char :=
  match path with
  | '/' :: rest => (withoutDots [] (rest.splitOn '/')).flatMap ('/' :: ·)
  | _ => path

/-- A path in the place of everything after the last slash of a base path. -/
def merge (base path : List Char) : List Char :=
  base.take (base.length - (afterLast '/' base).length) ++ path

/-- The address that a reference means, seen from a base address. -/
def resolve (base reference : Reference) : Reference :=
  if reference.scheme.isSome then { reference with path := settle reference.path }
  else if reference.authority.isSome then
    { reference with scheme := base.scheme, path := settle reference.path }
  else
    let path :=
      if reference.path.isEmpty then base.path
      else if reference.path.head? == some '/' then settle reference.path
      else settle (merge base.path reference.path)
    let query :=
      if reference.path.isEmpty && reference.query.isNone then base.query else reference.query
    ⟨base.scheme, base.authority, path, query, reference.fragment⟩

end Reference

end SelfUpdate.Url
