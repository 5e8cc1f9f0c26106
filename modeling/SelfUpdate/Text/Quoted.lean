import SelfUpdate.Text.Numeral
import SelfUpdate.Text.Unprintable

/-!
# Quoted text

Messages show a text from outside between quotation marks, with everything that
would not print as itself written as an escape: the short escapes for tab, line
feed, carriage return, NUL and the backslash, and `\u{…}` with the code point in
hexadecimal for the other unprintable characters. Only the quotation mark in use
is escaped.
-/

namespace SelfUpdate.Text

/-- The escaped form of a character inside quotation marks of the given kind. -/
def escape (mark character : Char) : List Char :=
  match character with
  | '\x00' => ['\\', '0']
  | '\t' => ['\\', 't']
  | '\n' => ['\\', 'n']
  | '\r' => ['\\', 'r']
  | '\\' => ['\\', '\\']
  | _ =>
      if character = mark then ['\\', character]
      else if isUnprintable character then
        ['\\', 'u', '{'] ++ hexadecimal character.toNat ++ ['}']
      else [character]

/-- A text in double quotation marks. -/
def quoted (text : String) : String :=
  String.ofList ('"' :: text.toList.flatMap (escape '"') ++ ['"'])

/-- A single character in single quotation marks. -/
def quotedCharacter (character : Char) : String :=
  String.ofList ('\'' :: escape '\'' character ++ ['\''])

end SelfUpdate.Text
