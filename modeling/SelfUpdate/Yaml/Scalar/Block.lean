import SelfUpdate.Yaml.Cursor

/-!
# Scalars of whole lines

A block scalar consists of the lines that are indented deep enough. A literal one
keeps its line endings, a folded one joins lines that are not more indented. Its
header may fix the indentation and say what happens to line endings at the end.
-/

namespace SelfUpdate.Yaml

/-- What happens to the line endings after the last line with text: all are dropped, one is
kept, or all are kept. -/
inductive Chomping where
  | strip
  | clip
  | keep
  deriving DecidableEq, Repr

/-- The header of a block scalar: what happens to line endings, and by how many columns the
lines are indented more than what surrounds them. -/
structure BlockHeader where
  chomping : Chomping
  increment : Option Nat
  deriving DecidableEq, Repr

/-- The sign for what happens to line endings. -/
def chompingSign : List Char → Option Chomping
  | '+' :: _ => some .keep
  | '-' :: _ => some .strip
  | _ => none

/-- The digit for an indentation; it must not be zero. -/
def incrementSign : List Char → Option (Option Nat)
  | '0' :: _ => none
  | digit :: _ => some (if digit.isDigit then some (digit.toNat - '0'.toNat) else none)
  | [] => some none

/-- The text after a sign that may be missing. -/
def dropSign {α : Type} (sign : Option α) (text : List Char) : List Char :=
  if sign.isSome then text.drop 1 else text

/-- Read the two signs of a header in either order, and return the text after them. -/
def readHeader (text : List Char) : Option (BlockHeader × List Char) :=
  match chompingSign text with
  | some chomping => do
      let rest := text.drop 1
      let increment ← incrementSign rest
      return (⟨chomping, increment⟩, dropSign increment rest)
  | none => do
      let increment ← incrementSign text
      let rest := dropSign increment text
      let chomping := if increment.isSome then chompingSign rest else none
      return (⟨chomping.getD .clip, increment⟩, dropSign chomping rest)

/-- Empty lines in front of a line of a block scalar. -/
structure EmptyLines where
  breaks : List Char
  deepest : Nat
  cursor : Cursor

/-- Skip empty lines. The lines are indented to a column that may not be known yet; a tab
before that column is not allowed. -/
def emptyLines (indentation : Option Nat) : (fuel : Nat) → (deepest : Nat) → Cursor →
    Option EmptyLines
  | 0, _, _ => none
  | fuel + 1, deepest, cursor =>
      let blanks := (cursor.rest.takeWhile (· == ' ')).length
      let blanks := (indentation.map fun column => min blanks (column - cursor.column)).getD blanks
      let cursor := cursor.advance blanks
      let deepest := max deepest cursor.column
      let shallow := indentation.all fun column => cursor.column < column
      match cursor.rest with
      | '\t' :: _ => if shallow then none else some ⟨[], deepest, cursor⟩
      | character :: _ =>
          if isBreak character then do
            let more ← emptyLines indentation fuel deepest cursor.next
            return { more with breaks := character :: more.breaks }
          else some ⟨[], deepest, cursor⟩
      | [] => some ⟨[], deepest, cursor⟩

/-- What stands between two lines of a block scalar: the line ending of the first and those
of empty lines. A folded scalar joins two lines that both begin with text. -/
def joinLines (folded : Bool) (ending : List Char) (breaks : List Char) : List Char :=
  if folded && ending.head? == some '\n' then
    if breaks.isEmpty then [' '] else breaks
  else ending ++ breaks

/-- What is left of the line endings at the end. -/
def Chomping.apply (chomping : Chomping) (ending breaks : List Char) : List Char :=
  match chomping with
  | .strip => []
  | .clip => ending
  | .keep => ending ++ breaks

/-- Read the lines of a block scalar that begin at a cursor. The ending of the line before
and the empty lines since are given, and whether that line began with a blank. -/
def blockLines (folds : Bool) (chomping : Chomping) (indentation : Nat) :
    (fuel : Nat) → (ending breaks : List Char) → (blankBefore : Bool) → Cursor →
    Option (List Char × Cursor)
  | 0, _, _, _, _ => none
  | fuel + 1, ending, breaks, blankBefore, cursor =>
      if cursor.column != indentation || cursor.rest.isEmpty then
        some (chomping.apply ending breaks, cursor)
      else do
        let blankNow := cursor.rest.head?.any isBlank
        let gap := joinLines (folds && !blankBefore && !blankNow) ending breaks
        let line := cursor.rest.takeWhile (!isBreak ·)
        let cursor := cursor.advance line.length
        let newEnding := cursor.rest.take 1
        let next ← emptyLines (some indentation) (cursor.rest.length + 1) 0 cursor.skipBreak
        let (text, cursor) ←
          blockLines folds chomping indentation fuel newEnding next.breaks blankNow next.cursor
        return (gap ++ line ++ text, cursor)

/-- The text of a block scalar whose sign stands at a cursor, and the place after it. What
surrounds it is indented to the column before `level`. -/
def blockScalar (folds : Bool) (level : Nat) (cursor : Cursor) : Option (String × Cursor) := do
  let cursor := cursor.next
  let (header, rest) ← readHeader cursor.rest
  let cursor ← (cursor.advanceTo rest).skipLineEnd
  let known := header.increment.map (level.pred + ·)
  let first ← emptyLines known (cursor.rest.length + 1) 0 cursor
  let indentation := known.getD (max (max first.deepest level) 1)
  let (text, cursor) ←
    blockLines folds header.chomping indentation (first.cursor.rest.length + 1) []
      first.breaks false first.cursor
  return (String.ofList text, cursor)

end SelfUpdate.Yaml
