import SelfUpdate.Text.Numeral
import SelfUpdate.Text.Utf8

/-!
# JSON texts

A text stands between quotation marks. In it a backslash begins an escape: one of a
few letters, or `u` and four hexadecimal digits that give a unit of 16 bits.
Characters outside the first 65536 take a pair of units.

Splitting a text off only checks that its escapes are complete. Whether units are
properly paired, and whether the bytes are UTF-8, matters only to those who want to
know what the text says.
-/

namespace SelfUpdate.Json

/-- A part of a text: a byte, or a unit of 16 bits that an escape gives. -/
inductive Piece where
  | byte (value : UInt8)
  | unit (value : Nat)
  deriving DecidableEq, Repr

def byteOf (character : Char) : UInt8 :=
  UInt8.ofNat character.toNat

/-- What a short escape stands for. -/
def shortEscape? (letter : UInt8) : Option Piece :=
  [('"', 0x22), ('\\', 0x5c), ('/', 0x2f), ('b', 0x08), ('f', 0x0c), ('n', 0x0a),
    ('r', 0x0d), ('t', 0x09)].findSome? fun (character, byte) =>
      if letter = byteOf character then some (.byte byte) else none

/-- What the escape with four hexadecimal digits stands for. -/
def longEscape? (digits : Bytes) : Option Piece :=
  (Text.numeral? 16 (digits.map fun byte => Char.ofNat byte.toNat)).map .unit

/-- Split off the parts of a text up to the closing quotation mark. -/
def splitText? : Bytes → Option (List Piece × Bytes)
  | [] => none
  | byte :: rest =>
      if byte = byteOf '"' then some ([], rest)
      else if byte < 0x20 then none
      else if byte ≠ byteOf '\\' then do
        let (pieces, rest) ← splitText? rest
        return (.byte byte :: pieces, rest)
      else
        match rest with
        | [] => none
        | letter :: rest =>
            if letter ≠ byteOf 'u' then do
              let piece ← shortEscape? letter
              let (pieces, rest) ← splitText? rest
              return (piece :: pieces, rest)
            else
              match rest with
              | a :: b :: c :: d :: rest => do
                  let piece ← longEscape? [a, b, c, d]
                  let (pieces, rest) ← splitText? rest
                  return (piece :: pieces, rest)
              | _ => none

/-- The bytes of the character with a code point that is one. -/
def pointBytes? (point : Nat) : Option Bytes :=
  if point.isValidChar then some (Bytes.ofString (Char.ofNat point).toString) else none

/-- The code point of a pair of units. -/
def pairedPoint? (high low : Nat) : Option Nat :=
  if 0xd800 ≤ high && high < 0xdc00 && 0xdc00 ≤ low && low < 0xe000 then
    some (0x10000 + (high - 0xd800) * 0x400 + (low - 0xdc00))
  else none

/-- The bytes of a text. A unit that is no character begins a pair. -/
def textBytes? : List Piece → Option Bytes
  | [] => some []
  | .byte byte :: rest => return byte :: (← textBytes? rest)
  | .unit unit :: rest =>
      match pointBytes? unit with
      | some bytes => return bytes ++ (← textBytes? rest)
      | none =>
          match rest with
          | .unit low :: rest => do
              let bytes ← pointBytes? (← pairedPoint? unit low)
              return bytes ++ (← textBytes? rest)
          | _ => none

def decodeText? (pieces : List Piece) : Option String := do
  Text.decodeUtf8? (← textBytes? pieces)

end SelfUpdate.Json
