import SelfUpdate.Text.Numeral
import SelfUpdate.Yaml.Cursor

/-!
# Scalars within lines

A plain scalar is written as it is, a quoted one between quotation marks. Both may
go on over several lines: space between two words that contains no line ending is
kept, and any other is folded.
-/

namespace SelfUpdate.Yaml

/-- What is left of space between words that contains a line ending: a single line feed
counts as a blank, and otherwise the line endings after it are kept. -/
def foldGap (gap : List Char) : List Char :=
  match gap.dropWhile isBlank with
  | [] => gap
  | first :: more =>
      let breaks := more.filter isBreak
      if first = '\n' then
        if breaks.isEmpty then [' '] else breaks
      else first :: breaks

/-- Whether some space ends a line and begins the next. -/
def startsLine (gap : List Char) : Bool :=
  gap.getLast?.any isBreak

/-- The characters of escapes that stand for one character. -/
def shortEscape : Char → Option Char
  | '0' => some '\x00'
  | 'a' => some '\x07'
  | 'b' => some '\x08'
  | 't' => some '\t'
  | '\t' => some '\t'
  | 'n' => some '\n'
  | 'v' => some '\x0b'
  | 'f' => some '\x0c'
  | 'r' => some '\r'
  | 'e' => some '\x1b'
  | ' ' => some ' '
  | '"' => some '"'
  | '/' => some '/'
  | '\\' => some '\\'
  | 'N' => some '\u0085'
  | '_' => some '\u00a0'
  | 'L' => some lineSeparator
  | 'P' => some paragraphSeparator
  | _ => none

/-- How many hexadecimal digits follow a letter that announces them. -/
def escapeDigits : Char → Option Nat
  | 'x' => some 2
  | 'u' => some 4
  | 'U' => some 8
  | _ => none

/-- The character of a code point that is one. -/
def characterOfPoint (point : Nat) : Option Char :=
  if point.isValidChar then some (Char.ofNat point) else none

/-- The character that an escape stands for, and the rest of the text after it. The text
begins after the backslash. -/
def readEscape : List Char → Option (Char × List Char)
  | [] => none
  | letter :: rest =>
      match shortEscape letter, escapeDigits letter with
      | some character, _ => some (character, rest)
      | none, some count =>
          let digits := rest.take count
          if digits.length < count then none
          else do
            let character ← characterOfPoint (← Text.numeral? 16 digits)
            return (character, rest.drop count)
      | none, none => none

inductive Quotation where
  | single
  | double
  deriving DecidableEq, Repr

def Quotation.mark : Quotation → Char
  | .single => '\''
  | .double => '"'

/-- Go on reading a quoted scalar after some space, unless a document begins or ends
there. -/
def afterGap (onNewLine : Bool) (rest : List Char) : Option (List Char) :=
  if onNewLine && atDocumentSign rest then none else some rest

/-- Read a quoted scalar up to its closing mark, and return the rest of the text. There
are at most `fuel` characters, spaces and escapes. -/
def readQuoted (quotation : Quotation) : (fuel : Nat) → List Char →
    Option (List Char × List Char)
  | 0, _ => none
  | _, [] => none
  | fuel + 1, character :: rest =>
      if isSpace character then do
        let gap := (character :: rest).takeWhile isSpace
        let rest ← afterGap (startsLine gap) ((character :: rest).dropWhile isSpace)
        let (text, rest) ← readQuoted quotation fuel rest
        return (foldGap gap ++ text, rest)
      else
        match quotation, character, rest with
        | .single, '\'', '\'' :: rest => do
            let (text, rest) ← readQuoted quotation fuel rest
            return ('\'' :: text, rest)
        | .double, '\\', next :: after =>
            if isBreak next then do
              let gap := after.takeWhile isSpace
              let rest ← afterGap (gap.isEmpty || startsLine gap) (after.dropWhile isSpace)
              let (text, rest) ← readQuoted quotation fuel rest
              return (gap.filter isBreak ++ text, rest)
            else do
              let (escaped, rest) ← readEscape rest
              let (text, rest) ← readQuoted quotation fuel rest
              return (escaped :: text, rest)
        | _, _, _ =>
            if character = quotation.mark then some ([], rest)
            else if quotation = .double && character = '\\' then none
            else do
              let (text, rest) ← readQuoted quotation fuel rest
              return (character :: text, rest)

/-- The text of a quoted scalar that begins at a cursor, and the place after it. -/
def quotedScalar (quotation : Quotation) (cursor : Cursor) : Option (String × Cursor) := do
  let (text, rest) ← readQuoted quotation cursor.rest.length (cursor.rest.drop 1)
  return (String.ofList text, cursor.advanceTo rest)

/-- Whether a plain scalar cannot go on at a colon: within brackets, an indicator must not
follow it. -/
def isStrayColon (inBrackets : Bool) : List Char → Bool
  | ':' :: next :: _ => inBrackets && (isFlowIndicator next || next == '?')
  | _ => false

/-- Whether a plain scalar ends in front of the given text, which begins with no space. -/
def plainEnds (inBrackets : Bool) : List Char → Bool
  | [] => true
  | ':' :: rest => atSpace rest
  | character :: _ => inBrackets && isFlowIndicator character

/-- The longest word of a plain scalar that a text begins with, and the text after it. -/
def plainWord (inBrackets : Bool) : List Char → Option (List Char × List Char)
  | [] => some ([], [])
  | character :: rest =>
      if isSpace character then some ([], character :: rest)
      else if isStrayColon inBrackets (character :: rest) then none
      else if plainEnds inBrackets (character :: rest) then some ([], character :: rest)
      else do
        let (word, rest) ← plainWord inBrackets rest
        return (character :: word, rest)

/-- The column reached after some space that begins at a column. -/
def columnAfter (column : Nat) (gap : List Char) : Nat :=
  gap.foldl (fun column character => if isBreak character then 0 else column + 1) column

/-- Whether a tab stands where the lines of a scalar must be indented by blanks: on a later
line, before the given column. -/
def tabIndents (level : Nat) (gap : List Char) : Bool :=
  let lines := gap.dropWhile isBlank
  (List.range lines.length).any fun place =>
    lines[place]? == some '\t' && decide (columnAfter 0 (lines.take place) < level)

/-- What a plain scalar turned out to be, what follows it, and whether a line begins there. -/
structure Plain where
  text : List Char
  rest : List Char
  endsLine : Bool

/-- Read what follows a word of a plain scalar: more words, each after some space. Lines
of the scalar are indented at least to the column `level`, except within brackets. -/
def plainWords (inBrackets : Bool) (level : Nat) : (fuel : Nat) → (column : Nat) →
    List Char → Option Plain
  | 0, _, _ => none
  | fuel + 1, column, text =>
      let gap := text.takeWhile isSpace
      let rest := text.dropWhile isSpace
      let crossed := gap.any isBreak
      let column := columnAfter column gap
      if gap.isEmpty then some ⟨[], rest, false⟩
      else if tabIndents level gap then none
      else if !inBrackets && decide (column < level) then some ⟨[], rest, crossed⟩
      else if column = 0 && atDocumentSign rest then some ⟨[], rest, crossed⟩
      else if rest.head? = some '#' then some ⟨[], rest, crossed⟩
      else do
        let (word, rest) ← plainWord inBrackets rest
        if word.isEmpty then some ⟨[], rest, crossed⟩
        else do
          let more ← plainWords inBrackets level fuel (column + word.length) rest
          return { more with text := foldGap gap ++ word ++ more.text }

/-- The text of a plain scalar that begins at a cursor, the place after it, and whether a
line begins there. -/
def plainScalar (inBrackets : Bool) (level : Nat) (cursor : Cursor) :
    Option (String × Cursor × Bool) := do
  let (word, rest) ← plainWord inBrackets cursor.rest
  let more ← plainWords inBrackets level cursor.rest.length (cursor.column + word.length) rest
  return (String.ofList (word ++ more.text), cursor.advanceTo more.rest, more.endsLine)

end SelfUpdate.Yaml
