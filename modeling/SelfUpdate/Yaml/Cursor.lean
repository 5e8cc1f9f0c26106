import SelfUpdate.Yaml.Character

/-!
# A place in a text

The structure of a text depends on where things stand in it: on the line, and on
the column within the line.
-/

namespace SelfUpdate.Yaml

/-- A place in a text: what follows it, and how many characters, lines, and characters of the
line precede. -/
structure Cursor where
  rest : List Char
  index : Nat
  line : Nat
  column : Nat
  deriving DecidableEq, Repr

namespace Cursor

def start (text : List Char) : Cursor := ⟨text, 0, 0, 0⟩

def next (cursor : Cursor) : Cursor :=
  match cursor.rest with
  | [] => cursor
  | character :: rest =>
      if isBreak character then ⟨rest, cursor.index + 1, cursor.line + 1, 0⟩
      else ⟨rest, cursor.index + 1, cursor.line, cursor.column + 1⟩

def advance (cursor : Cursor) : Nat → Cursor
  | 0 => cursor
  | count + 1 => cursor.next.advance count

/-- The place from which the given rest of the text follows. -/
def advanceTo (cursor : Cursor) (rest : List Char) : Cursor :=
  cursor.advance (cursor.rest.length - rest.length)

/-- The place after all characters of a kind. -/
def skipWhile (cursor : Cursor) (kind : Char → Bool) : Cursor :=
  cursor.advance (cursor.rest.takeWhile kind).length

/-- The place after the end of the line, if it is at one. -/
def skipBreak (cursor : Cursor) : Cursor :=
  match cursor.rest with
  | character :: _ => if isBreak character then cursor.next else cursor
  | [] => cursor

/-- The place after blanks and a comment, where the line must end there. -/
def skipLineEnd (cursor : Cursor) : Option Cursor :=
  let cursor := cursor.skipWhile isBlank
  let cursor :=
    if cursor.rest.head? = some '#' then cursor.skipWhile (!isBreak ·) else cursor
  if atBreak cursor.rest then some cursor.skipBreak else none

end Cursor

end SelfUpdate.Yaml
