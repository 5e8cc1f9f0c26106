import SelfUpdate.Url.Escape

/-!
# Hosts

The host of an address is a name, or a number of 32 bits written in up to four
parts. All parts but the last stand for one byte each, and the last for the bytes
that are left. A part may be decimal, octal after a zero, or hexadecimal after
`0x`. Hosts in brackets are not understood.

Many characters are only another form of a digit, a letter or a full stop; a host
may be written with them. A few others are ignored.
-/

namespace SelfUpdate.Url

inductive Host where
  | number (value : Nat)
  | name (letters : List Char)
  deriving DecidableEq, Repr

/-- Ranges of other forms of ASCII characters, ends included, with the character that the
first of the range is a form of. -/
def formRanges : List (Nat × Nat × Char) :=
  [(0x41, 0x5a, 'a'), (0xb2, 0xb3, '2'), (0xb9, 0xb9, '1'), (0x2024, 0x2024, '.'),
    (0x2070, 0x2070, '0'), (0x2074, 0x2079, '4'), (0x2080, 0x2089, '0'),
    (0x2460, 0x2468, '1'), (0x24b6, 0x24cf, 'a'), (0x24d0, 0x24e9, 'a'),
    (0x24ea, 0x24ea, '0'), (0x3002, 0x3002, '.'), (0xfe52, 0xfe52, '.'),
    (0xff0d, 0xff0d, '-'), (0xff0e, 0xff0e, '.'), (0xff10, 0xff19, '0'),
    (0xff21, 0xff3a, 'a'), (0xff41, 0xff5a, 'a'), (0xff61, 0xff61, '.'),
    (0x1d7ce, 0x1d7d7, '0'), (0x1d7d8, 0x1d7e1, '0'), (0x1d7e2, 0x1d7eb, '0'),
    (0x1d7ec, 0x1d7f5, '0'), (0x1d7f6, 0x1d7ff, '0'), (0x1fbf0, 0x1fbf9, '0')]

/-- Ranges of characters that are ignored in a host, ends included. -/
def ignoredRanges : List (Nat × Nat) :=
  [(0xad, 0xad), (0x34f, 0x34f), (0x180b, 0x180f), (0x200b, 0x200b), (0x2060, 0x2060),
    (0x2064, 0x2064), (0xfe00, 0xfe0f), (0xfeff, 0xfeff), (0xe0100, 0xe01ef)]

/-- What a character of a host is read as. -/
def plainForm (character : Char) : List Char :=
  let point := character.toNat
  if ignoredRanges.any fun range => range.1 ≤ point && point ≤ range.2 then []
  else
    match formRanges.find? fun range => range.1 ≤ point && point ≤ range.2.1 with
    | some (first, _, form) => [Char.ofNat (form.toNat + (point - first))]
    | none => [character]

def isForbiddenInHost (character : Char) : Bool :=
  character.toNat ≤ 0x20 || character.toNat == 0x7f ||
    ['#', '%', '/', ':', '<', '>', '?', '@', '[', '\\', ']', '^', '|'].contains character

/-- The number that a part of a host spells. -/
def partNumber : List Char → Option Nat
  | ['0'] => some 0
  | ['0', 'x'] => some 0
  | '0' :: 'x' :: digits => Text.numeral? 16 digits
  | '0' :: digits => Text.numeral? 8 digits
  | digits => Text.numeral? 10 digits

/-- The parts of a host between full stops. One full stop at the end does not count. -/
def hostParts (letters : List Char) : List (List Char) :=
  let parts := letters.splitOn '.'
  if 1 < parts.length && parts.getLast? == some [] then parts.dropLast else parts

/-- Whether a host must be read as a number. -/
def endsInNumber (parts : List (List Char)) : Bool :=
  match parts.getLast? with
  | some part => (!part.isEmpty && part.all Char.isDigit) || (partNumber part).isSome
  | none => false

/-- The number that parts stand for which share the given count of bytes. -/
def joinParts : (bytes : Nat) → List Nat → Option Nat
  | 0, _ => none
  | _, [] => none
  | bytes, [last] => if last < Nat.pow 256 bytes then some last else none
  | bytes + 1, part :: rest => do
      let number ← joinParts bytes rest
      if part < 256 then some (part * Nat.pow 256 bytes + number) else none

namespace Host

def ofList? (text : List Char) : Option Host := do
  let decoded ← Text.decodeUtf8? (decode text)
  let letters := decoded.toList.flatMap plainForm
  if letters.isEmpty || letters.any isForbiddenInHost then none
  else
    let parts := hostParts letters
    if endsInNumber parts then
      return .number (← joinParts 4 (← parts.mapM partNumber))
    else some (.name letters)

/-- The host that a program reaches on its own machine. -/
def loopback : Host := .number 0x7f000001

/-- How a host is written: a number as four bytes in decimal. -/
def letters : Host → List Char
  | .number value =>
      let byte (weight : Nat) := Nat.toDigits 10 (value / weight % 256)
      byte 0x1000000 ++ '.' :: byte 0x10000 ++ '.' :: byte 256 ++ '.' :: byte 1
  | .name letters => letters

end Host

end SelfUpdate.Url
