/-!
# Characters of a YAML text

Which characters may occur at all, and which separate words and lines. Every way
of ending a line is read as one line feed, except that the two Unicode separators
of lines and paragraphs keep their identity.
-/

namespace SelfUpdate.Yaml

/-- Whether a character may occur in a text. -/
def isAllowed (character : Char) : Bool :=
  let point := character.toNat
  point == 0x09 || point == 0x0a || point == 0x0d || (0x20 ≤ point && point ≤ 0x7e) ||
    point == 0x85 || (0xa0 ≤ point && point ≤ 0xd7ff) || (0xe000 ≤ point && point ≤ 0xfffd) ||
    0x10000 ≤ point

/-- The mark that may stand in front of a text to show its encoding. -/
def byteOrderMark : Char := '\ufeff'

def lineSeparator : Char := '\u2028'

def paragraphSeparator : Char := '\u2029'

/-- Whether a character ends a line, once line endings have been unified. -/
def isBreak (character : Char) : Bool :=
  character == '\n' || character == lineSeparator || character == paragraphSeparator

def isBlank (character : Char) : Bool :=
  character == ' ' || character == '\t'

def isSpace (character : Char) : Bool :=
  isBlank character || isBreak character

/-- Whether a text ends or goes on with a character that separates. -/
def atSpace : List Char → Bool
  | [] => true
  | character :: _ => isSpace character

/-- Whether a text ends or goes on with the end of a line. -/
def atBreak : List Char → Bool
  | [] => true
  | character :: _ => isBreak character

def isWord (character : Char) : Bool :=
  character.isAlphanum || character == '_' || character == '-'

/-- Whether a character separates the entries of collections in brackets. -/
def isFlowIndicator (character : Char) : Bool :=
  character == ',' || character == '[' || character == ']' || character == '{' ||
    character == '}'

/-- The text with every line ending unified. -/
def unifyBreaks : List Char → List Char
  | '\r' :: '\n' :: rest => '\n' :: unifyBreaks rest
  | '\r' :: rest => '\n' :: unifyBreaks rest
  | '\u0085' :: rest => '\n' :: unifyBreaks rest
  | character :: rest => character :: unifyBreaks rest
  | [] => []

/-- Whether a line begins with three equal marks that stand alone. -/
def beginsWithMarks (mark : Char) : List Char → Bool
  | first :: second :: third :: rest =>
      first == mark && second == mark && third == mark && atSpace rest
  | _ => false

/-- Whether a line begins with the sign that starts or ends a document. -/
def atDocumentSign (line : List Char) : Bool :=
  beginsWithMarks '-' line || beginsWithMarks '.' line

end SelfUpdate.Yaml
