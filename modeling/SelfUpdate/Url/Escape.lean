import SelfUpdate.Text.Numeral
import SelfUpdate.Text.Utf8

/-!
# Percent-encoding

An address is written in printable ASCII characters. Any other character, and one
that would mean something else where it stands, is written as its UTF-8 bytes,
each as a percent sign and two hexadecimal digits.
-/

namespace SelfUpdate.Url

/-- The printable characters that are escaped in a path. -/
def pathEscapes : List Char := [' ', '"', '<', '>', '\x60', '#', '?', '{', '}']

/-- The printable characters that are escaped in a query. -/
def queryEscapes : List Char := [' ', '"', '<', '>', '#', '\'']

/-- The printable characters that are escaped in a fragment. -/
def fragmentEscapes : List Char := [' ', '"', '<', '>', '\x60']

/-- Whether a character is a printable ASCII character or a space. -/
def isPrintable (character : Char) : Bool :=
  0x20 ≤ character.toNat && character.toNat ≤ 0x7e

/-- Write characters, escaping those that are not printable and some of the others. -/
def encode (escapes : List Char) (text : List Char) : List Char :=
  text.flatMap fun character =>
    if isPrintable character && !escapes.contains character then [character]
    else (Bytes.ofString character.toString).flatMap fun byte => '%' :: Text.byteDigits byte

/-- The bytes that a text with escapes stands for. A percent sign without two digits after
it stands for itself. -/
def decode : List Char → Bytes
  | [] => []
  | '%' :: high :: low :: rest =>
      match Text.numeral? 16 [high, low] with
      | some number => UInt8.ofNat number :: decode rest
      | none => Bytes.ofString "%" ++ decode (high :: low :: rest)
  | character :: rest => Bytes.ofString character.toString ++ decode rest

end SelfUpdate.Url
