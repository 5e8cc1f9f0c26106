import SelfUpdate.Yaml.Scalar.Block
import SelfUpdate.Yaml.Scalar.Flow
import SelfUpdate.Yaml.Token.Property

/-!
# The tokens of a text

Tokens are read from left to right. Collections written in lines begin where a line
is indented more than before and end where it is indented less.

Only the colon after it shows that something was a key. So the lexer remembers
where the last possible key began, and puts the missing tokens there when it comes
to the colon. A key must stand on one line and must not be long.
-/

namespace SelfUpdate.Yaml

/-- The place where a key may have begun, or must have if nothing else can stand there. -/
structure KeyCandidate where
  required : Bool
  position : Nat
  index : Nat
  line : Nat
  column : Nat
  deriving DecidableEq, Repr

/-- What has been read of a text, the last token first. A level is the column after the
indentation of a collection in lines, and a candidate is a possible key inside some brackets.
Those that are no longer the innermost are kept apart. -/
structure Lexer where
  cursor : Cursor
  tokens : List Token
  level : Nat
  outerLevels : List Nat
  keyAllowed : Bool
  candidate : Option KeyCandidate
  outerCandidates : List (Option KeyCandidate)

namespace Lexer

def maxKeyLength : Nat := 1024

def start (text : List Char) : Lexer :=
  ⟨.start text, [], 0, [], true, none, []⟩

def inBrackets (lexer : Lexer) : Bool :=
  !lexer.outerCandidates.isEmpty

def push (lexer : Lexer) (token : Token) : Lexer :=
  { lexer with tokens := token :: lexer.tokens }

/-- The lexer with a token in front of those after a position. -/
def insert (lexer : Lexer) (position : Nat) (token : Token) : Lexer :=
  let later := lexer.tokens.length - position
  { lexer with tokens := lexer.tokens.take later ++ token :: lexer.tokens.drop later }

def advance (lexer : Lexer) (count : Nat) : Lexer :=
  { lexer with cursor := lexer.cursor.advance count }

/-- Forget the possible key, unless it had to be one. -/
def dropCandidate (lexer : Lexer) : Option Lexer :=
  if lexer.candidate.any KeyCandidate.required then none
  else some { lexer with candidate := none }

/-- Remember that a key may begin here. -/
def saveCandidate (lexer : Lexer) : Option Lexer :=
  if lexer.keyAllowed then do
    let lexer ← lexer.dropCandidate
    let cursor := lexer.cursor
    let required := !lexer.inBrackets && lexer.level = cursor.column + 1
    return { lexer with
      candidate := some
        ⟨required, lexer.tokens.length, cursor.index, cursor.line, cursor.column⟩ }
  else some lexer

/-- Begin a collection in lines if a column is deeper than the collection around it. The
token that begins it goes to a position. -/
def indent (lexer : Lexer) (column position : Nat) (token : Token) : Lexer :=
  if !lexer.inBrackets && lexer.level ≤ column then
    { lexer.insert position token with
      level := column + 1
      outerLevels := lexer.level :: lexer.outerLevels }
  else lexer

/-- End the collections in lines that are deeper than a level, the innermost first. -/
def dedentTo (level : Nat) : (current : Nat) → (outer : List Nat) → List Token →
    Nat × List Nat × List Token
  | current, [], tokens => (current, [], tokens)
  | current, next :: outer, tokens =>
      if level < current then dedentTo level next outer (.blockEnd :: tokens)
      else (current, next :: outer, tokens)

/-- End the collections in lines that are indented more than to the column before a
level. -/
def dedent (lexer : Lexer) (level : Nat) : Lexer :=
  if lexer.inBrackets then lexer
  else
    let (current, outer, tokens) := dedentTo level lexer.level lexer.outerLevels lexer.tokens
    { lexer with level := current, outerLevels := outer, tokens }

/-- How many characters of space and comments a text begins with, and whether a key may
begin after them. Tabs are no space where the indentation of a key is expected. -/
def spaceLength (inBrackets : Bool) : (keyAllowed lineStart inComment : Bool) → List Char →
    Nat × Bool
  | keyAllowed, _, _, [] => (0, keyAllowed)
  | keyAllowed, lineStart, inComment, character :: rest =>
      if isBreak character then
        let (count, allowed) := spaceLength inBrackets (keyAllowed || !inBrackets) true false rest
        (count + 1, allowed)
      else if inComment || character = '#' then
        let (count, allowed) := spaceLength inBrackets keyAllowed false true rest
        (count + 1, allowed)
      else if character = ' ' || (character = '\t' && (inBrackets || !keyAllowed)) ||
          (character = byteOrderMark && lineStart) then
        let (count, allowed) := spaceLength inBrackets keyAllowed false false rest
        (count + 1, allowed)
      else (0, keyAllowed)

def skipSpace (lexer : Lexer) : Lexer :=
  let (count, keyAllowed) :=
    spaceLength lexer.inBrackets lexer.keyAllowed (lexer.cursor.column == 0) false
      lexer.cursor.rest
  { lexer.advance count with keyAllowed }

/-- Read a token that stands alone on its line: all collections in lines end before it. -/
def standalone (lexer : Lexer) (token : Token) (cursor : Cursor) : Option Lexer := do
  let lexer ← (lexer.dedent 0).dropCandidate
  return { lexer.push token with cursor, keyAllowed := false }

def openBracket (lexer : Lexer) (token : Token) : Option Lexer := do
  let lexer ← lexer.saveCandidate
  return { (lexer.push token).advance 1 with
    candidate := none
    outerCandidates := lexer.candidate :: lexer.outerCandidates
    keyAllowed := true }

def closeBracket (lexer : Lexer) (token : Token) : Option Lexer := do
  let lexer ← lexer.dropCandidate
  let lexer :=
    match lexer.outerCandidates with
    | [] => lexer
    | candidate :: outer => { lexer with candidate, outerCandidates := outer }
  return { (lexer.push token).advance 1 with keyAllowed := false }

def flowEntry (lexer : Lexer) : Option Lexer := do
  let lexer ← lexer.dropCandidate
  return { (lexer.push .flowEntry).advance 1 with keyAllowed := true }

/-- Begin a collection in lines at a sign, which must be allowed there. -/
def beginAtSign (lexer : Lexer) (token : Token) : Option Lexer :=
  if lexer.inBrackets then some lexer
  else if !lexer.keyAllowed then none
  else some (lexer.indent lexer.cursor.column lexer.tokens.length token)

def blockEntry (lexer : Lexer) : Option Lexer := do
  let lexer ← (← lexer.beginAtSign .blockSequenceStart).dropCandidate
  return { (lexer.push .blockEntry).advance 1 with keyAllowed := true }

def keySign (lexer : Lexer) : Option Lexer := do
  let lexer ← (← lexer.beginAtSign .blockMappingStart).dropCandidate
  return { (lexer.push .key).advance 1 with keyAllowed := !lexer.inBrackets }

/-- The possible key, if it is still near enough. One that had to be a key must be. -/
def nearCandidate (lexer : Lexer) : Option (Option KeyCandidate) :=
  match lexer.candidate with
  | none => some none
  | some candidate =>
      if candidate.line < lexer.cursor.line ∨
          candidate.index + maxKeyLength < lexer.cursor.index then
        if candidate.required then none else some none
      else some (some candidate)

/-- Read the colon in front of a value. -/
def valueSign (lexer : Lexer) : Option Lexer := do
  match ← lexer.nearCandidate with
  | some candidate =>
      let lexer := lexer.insert candidate.position .key
      let lexer := lexer.indent candidate.column candidate.position .blockMappingStart
      return { (lexer.push .value).advance 1 with candidate := none, keyAllowed := false }
  | none =>
      let lexer ← { lexer with candidate := none }.beginAtSign .blockMappingStart
      return { (lexer.push .value).advance 1 with keyAllowed := !lexer.inBrackets }

/-- Read a token that a key may consist of or begin with. -/
def nodeToken (lexer : Lexer) (read : Cursor → Option (Token × Cursor)) : Option Lexer := do
  let lexer ← lexer.saveCandidate
  let (token, cursor) ← read lexer.cursor
  return { lexer.push token with cursor, keyAllowed := false }

def plain (lexer : Lexer) : Option Lexer := do
  let lexer ← lexer.saveCandidate
  let (text, cursor, newLine) ← plainScalar lexer.inBrackets lexer.level lexer.cursor
  return { lexer.push (.scalar text true) with cursor, keyAllowed := newLine }

def block (lexer : Lexer) (folds : Bool) : Option Lexer := do
  let lexer ← lexer.dropCandidate
  let (text, cursor) ← blockScalar folds lexer.level lexer.cursor
  return { lexer.push (.scalar text false) with cursor, keyAllowed := true }

/-- Whether a plain scalar may begin with the given text. -/
def beginsPlain (inBrackets : Bool) : List Char → Bool
  | [] => false
  | character :: rest =>
      if isSpace character then false
      else if character = '-' then !rest.head?.any isBlank
      else if character = '?' || character = ':' then !inBrackets && !atSpace rest
      else
        !isFlowIndicator character &&
          !(['#', '&', '*', '!', '|', '>', '\'', '"', '%', '@', '\x60'].contains character)

/-- Read the token that begins at the cursor, which stands at no space. -/
def readToken (lexer : Lexer) : Option Lexer :=
  let cursor := lexer.cursor
  let inBrackets := lexer.inBrackets
  let lineStart := cursor.column = 0
  match cursor.rest with
  | [] => none
  | character :: rest =>
      if lineStart && character = '%' then do
        let (token, cursor) ← directiveToken cursor
        lexer.standalone token cursor
      else if lineStart && beginsWithMarks '-' cursor.rest then
        lexer.standalone .documentStart (cursor.advance 3)
      else if lineStart && beginsWithMarks '.' cursor.rest then
        lexer.standalone .documentEnd (cursor.advance 3)
      else if character = '[' then lexer.openBracket .flowSequenceStart
      else if character = '{' then lexer.openBracket .flowMappingStart
      else if character = ']' then lexer.closeBracket .flowSequenceEnd
      else if character = '}' then lexer.closeBracket .flowMappingEnd
      else if character = ',' then lexer.flowEntry
      else if character = '-' && atSpace rest then lexer.blockEntry
      else if character = '?' && (inBrackets || atSpace rest) then lexer.keySign
      else if character = ':' && (inBrackets || atSpace rest) then lexer.valueSign
      else if character = '*' then
        lexer.nodeToken fun cursor => do
          let (name, cursor) ← referenceName cursor
          return (.alias name, cursor)
      else if character = '&' then
        lexer.nodeToken fun cursor => do
          let (name, cursor) ← referenceName cursor
          return (.anchor name, cursor)
      else if character = '!' then lexer.nodeToken (tagToken inBrackets)
      else if character = '|' && !inBrackets then lexer.block false
      else if character = '>' && !inBrackets then lexer.block true
      else if character = '\'' || character = '"' then
        lexer.nodeToken fun cursor => do
          let quotation := if character = '"' then .double else .single
          let (text, cursor) ← quotedScalar quotation cursor
          return (.scalar text false, cursor)
      else if beginsPlain inBrackets cursor.rest then lexer.plain
      else none

/-- Read tokens up to the end of the text. At most `fuel` are read. -/
def readTokens : (fuel : Nat) → Lexer → Option Lexer
  | 0, _ => none
  | fuel + 1, lexer =>
      let lexer := lexer.skipSpace
      let lexer := lexer.dedent (lexer.cursor.column + 1)
      if lexer.cursor.rest.isEmpty then (lexer.dedent 0).dropCandidate
      else do readTokens fuel (← lexer.readToken)

end Lexer

/-- The tokens of a text, unless it is malformed. Every token takes at least one
character. -/
def Token.scan (text : String) : Option (List Token) :=
  let characters := text.toList
  if characters.all isAllowed then
    let characters :=
      if characters.head? = some byteOrderMark then characters.drop 1 else characters
    let characters := unifyBreaks characters
    (Lexer.readTokens (characters.length + 1) (.start characters)).map (·.tokens.reverse)
  else none

end SelfUpdate.Yaml
