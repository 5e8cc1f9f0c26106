import SelfUpdate.Text.Numeral
import SelfUpdate.Yaml.Cursor
import SelfUpdate.Yaml.Token.Basic

/-!
# Directives, tags, anchors and aliases

These tokens tell something about a document or a node. What a tag says does not
matter to a reader that knows which types it expects, but a tag still has to be
written correctly.
-/

namespace SelfUpdate.Yaml

/-- Whether a name may end in front of the given text. -/
def nameEnds : List Char → Bool
  | [] => true
  | character :: _ =>
      isSpace character || ['?', ':', ',', ']', '}', '%', '@', '\x60'].contains character

/-- The name of an anchor or alias whose sign stands at a cursor, and the place after it. -/
def referenceName (cursor : Cursor) : Option (List Char × Cursor) :=
  let cursor := cursor.next
  let name := cursor.rest.takeWhile isWord
  let after := cursor.skipWhile isWord
  if name.isEmpty || !nameEnds after.rest then none else some (name, after)

/-- Whether a character may be part of a tag. -/
def isTagCharacter (verbatim : Bool) (character : Char) : Bool :=
  isWord character ||
    [';', '/', '?', ':', '@', '&', '=', '+', '$', '.', '!', '~', '*', '\'', '(', ')'].contains
      character ||
    (verbatim && [',', '[', ']'].contains character)

/-- The byte that an escape in a tag stands for, and the text after it. -/
def escapedByte : List Char → Option (Nat × List Char)
  | '%' :: high :: low :: rest => do
      return (← Text.numeral? 16 [high, low], rest)
  | _ => none

/-- How many further bytes a character has, by its first byte. -/
def continuationCount (first : Nat) : Option Nat :=
  if first < 0x80 then some 0
  else if first / 0x20 = 6 then some 1
  else if first / 0x10 = 14 then some 2
  else if first / 0x08 = 30 then some 3
  else none

/-- Skip the escapes of the further bytes of a character. -/
def skipContinuation : (count : Nat) → List Char → Option (List Char)
  | 0, text => some text
  | count + 1, text => do
      let (byte, rest) ← escapedByte text
      if byte / 0x40 = 2 then skipContinuation count rest else none

def skipEscapedCharacter (text : List Char) : Option (List Char) := do
  let (first, rest) ← escapedByte text
  skipContinuation (← continuationCount first) rest

/-- Skip the characters of a tag, and count them. -/
def skipTagCharacters (verbatim : Bool) : (fuel : Nat) → List Char → Option (Nat × List Char)
  | 0, text => some (0, text)
  | _, [] => some (0, [])
  | fuel + 1, character :: rest =>
      if character = '%' then do
        let rest ← skipEscapedCharacter (character :: rest)
        let (count, rest) ← skipTagCharacters verbatim fuel rest
        return (count + 1, rest)
      else if isTagCharacter verbatim character then do
        let (count, rest) ← skipTagCharacters verbatim fuel rest
        return (count + 1, rest)
      else some (0, character :: rest)

/-- Skip the characters of a tag, which must be at least `least`. -/
def skipTag (verbatim : Bool) (least : Nat) (text : List Char) : Option (List Char) := do
  let (count, rest) ← skipTagCharacters verbatim text.length text
  if count < least then none else some rest

/-- The handle that a text begins with, and the text after it: an exclamation mark, and
perhaps a name with another exclamation mark. -/
def tagHandle : List Char → Option (List Char × List Char)
  | '!' :: rest =>
      let name := rest.takeWhile isWord
      match rest.dropWhile isWord with
      | '!' :: rest => some ('!' :: name ++ ['!'], rest)
      | rest => some ('!' :: name, rest)
  | _ => none

/-- Whether a handle stands between two exclamation marks. -/
def isClosedHandle (handle : List Char) : Bool :=
  2 ≤ handle.length && handle.getLast? == some '!'

/-- Whether a tag may end in front of the given text. -/
def tagEnds (inBrackets : Bool) (text : List Char) : Bool :=
  atSpace text || (inBrackets && text.head? == some ',')

/-- The handle of the tag that a text begins with, and the text after the tag. A tag in
angle brackets has none, and neither has a lone exclamation mark. -/
def readTag (text : List Char) : Option (Option (List Char) × List Char) :=
  match text with
  | '!' :: '<' :: rest => do
      match ← skipTag true 1 rest with
      | '>' :: rest => return (none, rest)
      | _ => none
  | _ => do
      let (handle, rest) ← tagHandle text
      if isClosedHandle handle then return (some handle, ← skipTag false 1 rest)
      else
        let after ← skipTag false 0 rest
        let lone := handle.length = 1 && after.length = rest.length
        return (if lone then none else some ['!'], after)

/-- The tag that stands at a cursor, and the place after it. -/
def tagToken (inBrackets : Bool) (cursor : Cursor) : Option (Token × Cursor) := do
  let (handle, rest) ← readTag cursor.rest
  if tagEnds inBrackets rest then some (.tag handle, cursor.advanceTo rest) else none

def maxVersionDigits : Nat := 9

/-- The number that a text begins with, and the text after it. -/
def versionNumber (text : List Char) : Option (Nat × List Char) :=
  let digits := text.takeWhile Char.isDigit
  if digits.isEmpty || maxVersionDigits < digits.length then none
  else
    let number := digits.foldl (fun number digit => number * 10 + (digit.toNat - '0'.toNat)) 0
    some (number, text.dropWhile Char.isDigit)

/-- The version that a text begins with, and the text after it. -/
def readVersion (text : List Char) : Option (Token × List Char) := do
  let (major, rest) ← versionNumber (text.dropWhile isBlank)
  match rest with
  | '.' :: rest =>
      let (minor, rest) ← versionNumber rest
      return (.versionDirective major minor, rest)
  | _ => none

/-- The handle and the prefix that a text begins with, and the text after them. -/
def readTagPrefix (text : List Char) : Option (Token × List Char) := do
  let (handle, rest) ← tagHandle (text.dropWhile isBlank)
  if 1 < handle.length && !isClosedHandle handle then none
  else if !rest.head?.any isBlank then none
  else
    let rest ← skipTag true 1 (rest.dropWhile isBlank)
    if atSpace rest then return (.tagDirective handle, rest) else none

/-- The directive whose sign stands at a cursor, and the place after its line. -/
def directiveToken (cursor : Cursor) : Option (Token × Cursor) := do
  let text := cursor.rest.drop 1
  let name := text.takeWhile isWord
  let rest := text.dropWhile isWord
  if !atSpace rest then none
  else
    let (token, rest) ←
      if name = "YAML".toList then readVersion rest
      else if name = "TAG".toList then readTagPrefix rest
      else none
    return (token, ← (cursor.advanceTo rest).skipLineEnd)

end SelfUpdate.Yaml
