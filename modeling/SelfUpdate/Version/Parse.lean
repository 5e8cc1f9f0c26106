import SelfUpdate.Version.Basic
import SelfUpdate.Version.Error
import SelfUpdate.Text.Blank

/-!
# Reading versions

`Version.parse` accepts strict semantic versions only. `Version.fromTag` reads the
tag of a release, which may have blank characters around it and one `v` in front.
-/

namespace SelfUpdate.Version

/-- The characters an identifier may hold: ASCII letters, digits and the hyphen. -/
def isIdentifierCharacter (character : Char) : Bool :=
  character.isAlphanum || character == '-'

def isNumeric (identifier : Identifier) : Bool :=
  identifier.all Char.isDigit

def hasLeadingZero : List Char → Bool
  | '0' :: _ :: _ => true
  | _ => false

/-- Read a number: as many digits as there are, at least one. -/
def readNumber (position : Position) (text : List Char) :
    Except ParseError (UInt64 × List Char) :=
  let digits := text.takeWhile Char.isDigit
  let value := Nat.ofDigitChars 10 digits 0
  match text with
  | [] => .error (.unexpectedEnd position)
  | character :: _ =>
      if digits.isEmpty then .error (.unexpectedCharacter position character)
      else if hasLeadingZero digits then .error (.leadingZero position)
      else if fits : value < UInt64.size then
        .ok (UInt64.ofNatLT value fits, text.dropWhile Char.isDigit)
      else .error (.tooLarge position)

/-- Read the dot that must follow a number. -/
def readDot (position : Position) : List Char → Except ParseError (List Char)
  | [] => .error (.unexpectedEnd position)
  | '.' :: rest => .ok rest
  | character :: _ => .error (.unexpectedAfter position character)

/-- What is wrong with one identifier. Only pre-release identifiers are numbers whose
leading zeros count. -/
def identifierFault (position : Position) (identifier : Identifier) : Option ParseError :=
  if identifier.isEmpty then some (.emptyIdentifier position)
  else if position = .preRelease ∧ isNumeric identifier ∧ hasLeadingZero identifier then
    some (.leadingZero position)
  else none

/-- Read dot-separated identifiers: all characters that identifiers and their dots may
hold, up to the first other one. -/
def readIdentifiers (position : Position) (text : List Char) :
    Except ParseError (List Identifier × List Char) :=
  let belongs := fun character => isIdentifierCharacter character || character == '.'
  let identifiers := (text.takeWhile belongs).splitOn '.'
  match identifiers.findSome? (identifierFault position) with
  | some fault => .error fault
  | none => .ok (identifiers, text.dropWhile belongs)

/-- Read a suffix if the text begins with its mark. The position tells what an
unexpected character would come after. -/
def readSuffix (mark : Char) (position before : Position) (text : List Char) :
    Except ParseError (List Identifier × Position × List Char) :=
  match text with
  | [] => .ok ([], before, [])
  | character :: rest =>
      if character = mark then
        match readIdentifiers position rest with
        | .error fault => .error fault
        | .ok (identifiers, rest) => .ok (identifiers, position, rest)
      else .ok ([], before, text)

/-- Nothing may follow a complete version. -/
def readEnd (position : Position) : List Char → Except ParseError Unit
  | [] => .ok ()
  | character :: _ => .error (.unexpectedAfter position character)

def ofChars (text : List Char) : Except ParseError Version := do
  if text.isEmpty then .error .empty
  let (major, text) ← readNumber .major text
  let text ← readDot .major text
  let (minor, text) ← readNumber .minor text
  let text ← readDot .minor text
  let (patch, text) ← readNumber .patch text
  let (preRelease, position, text) ← readSuffix '-' .preRelease .patch text
  let (build, position, text) ← readSuffix '+' .build position text
  readEnd position text
  return { major, minor, patch, preRelease, build }

/-- Read a strict semantic version. -/
def parse (text : String) : Except ParseError Version :=
  ofChars text.toList

/-- The version that a text stands for, where texts are turned into values of any kind. -/
def ofString (text : String) : Except ParseError Version :=
  parse text

/-- A tag's version text: blank characters around it and one leading `v` are dropped. -/
def tagBody (tag : List Char) : List Char :=
  match Text.trim tag with
  | 'v' :: body => body
  | body => body

/-- Read the version that a release tag names. -/
def fromTag (tag : String) : Except ParseError Version :=
  ofChars (tagBody tag.toList)

end SelfUpdate.Version
