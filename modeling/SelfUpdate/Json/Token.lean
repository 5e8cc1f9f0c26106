import SelfUpdate.Json.Text

/-!
# JSON tokens

A document is a row of tokens with white space between them: brackets, braces,
commas, colons, texts, numbers and the three words.
-/

namespace SelfUpdate.Json

/-- The smallest meaningful parts of a document. Numbers and the three words are all alike. -/
inductive Token where
  | openObject
  | closeObject
  | openArray
  | closeArray
  | colon
  | comma
  | plain
  | text (pieces : List Piece)
  deriving DecidableEq, Repr

def isSpace (byte : UInt8) : Bool :=
  byte == 0x20 || byte == 0x0a || byte == 0x0d || byte == 0x09

/-- The token that a single byte is. -/
def markToken? (byte : UInt8) : Option Token :=
  [('{', Token.openObject), ('}', .closeObject), ('[', .openArray), (']', .closeArray),
    (':', .colon), (',', .comma)].findSome? fun (character, token) =>
      if byte = byteOf character then some token else none

def isDigit (byte : UInt8) : Bool :=
  byteOf '0' ≤ byte && byte ≤ byteOf '9'

/-- What follows a row of digits, of which there must be one. -/
def afterDigits? (bytes : Bytes) : Option Bytes :=
  if (bytes.head?.any isDigit) then some (bytes.dropWhile isDigit) else none

/-- What follows the whole part of a number. It has no leading zeros. -/
def afterWhole? (bytes : Bytes) : Option Bytes :=
  if bytes.head? = some (byteOf '0') then
    if bytes.tail.head?.any isDigit then none else some bytes.tail
  else afterDigits? bytes

/-- What follows the fraction of a number, if it has one. -/
def afterFraction? (bytes : Bytes) : Option Bytes :=
  if bytes.head? = some (byteOf '.') then afterDigits? bytes.tail else some bytes

/-- What follows the exponent of a number, if it has one. -/
def afterExponent? (bytes : Bytes) : Option Bytes :=
  if bytes.head? = some (byteOf 'e') || bytes.head? = some (byteOf 'E') then
    let bytes := bytes.tail
    let isSigned := bytes.head? = some (byteOf '+') || bytes.head? = some (byteOf '-')
    afterDigits? (if isSigned then bytes.tail else bytes)
  else some bytes

def afterNumber? (bytes : Bytes) : Option Bytes := do
  let unsigned := if bytes.head? = some (byteOf '-') then bytes.tail else bytes
  afterExponent? (← afterFraction? (← afterWhole? unsigned))

/-- What follows one of the three words. -/
def afterWord? (bytes : Bytes) : Option Bytes :=
  ["null", "true", "false"].findSome? fun word =>
    (Bytes.ofString word).isPrefixOf? bytes

/-- Split the first token off a document that begins with one. -/
def splitToken? (bytes : Bytes) : Option (Token × Bytes) :=
  match bytes with
  | [] => none
  | byte :: rest =>
      match markToken? byte with
      | some token => some (token, rest)
      | none =>
          if byte = byteOf '"' then do
            let (text, rest) ← splitText? rest
            return (.text text, rest)
          else do
            return (.plain, ← (afterWord? bytes).orElse fun _ => afterNumber? bytes)

/-- The tokens of a document, at most as many as the limit. -/
def scanUpTo : (limit : Nat) → Bytes → Option (List Token)
  | limit, bytes =>
      match bytes.dropWhile isSpace, limit with
      | [], _ => some []
      | _, 0 => none
      | bytes, limit + 1 => do
          let (token, rest) ← splitToken? bytes
          return token :: (← scanUpTo limit rest)

/-- The tokens of a document. Every token takes a byte, so there are no more tokens than
bytes. -/
def scan (bytes : Bytes) : Option (List Token) :=
  scanUpTo bytes.length bytes

end SelfUpdate.Json
