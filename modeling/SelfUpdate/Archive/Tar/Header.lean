import SelfUpdate.Text.Blank
import SelfUpdate.Text.Numeral
import SelfUpdate.Text.Utf8

/-!
# Headers of tar archives

A tar archive is a sequence of blocks of 512 bytes. Every member begins with a
header block. Numbers in it are octal text, or big-endian where the highest bit of
the field is set. Two families of headers know more kinds of members than the
oldest form: the one of the POSIX standard, which can also continue the name in a
second field, and the one of GNU.
-/

namespace SelfUpdate.Tar

def blockSize : Nat := 512

structure Header where
  block : Bytes
  deriving DecidableEq, Repr

/-- What a member is, as far as reading tells members apart. The path of the next member, its
link target, or records about it can be the content of a member of their own. A sparse file is
stored without its holes. -/
inductive Kind where
  | file
  | longName
  | longLink
  | extended
  | sparse
  | other
  deriving DecidableEq, Repr

/-- Read an octal field: text up to the first NUL, with blank characters around the digits
and a plus sign in front allowed. The number must fit into 64 bits. -/
def octalField (field : Bytes) : Option Nat := do
  let text ← Text.decodeUtf8? (field.upTo 0)
  let digits :=
    match Text.trim text.toList with
    | '+' :: digits => digits
    | digits => digits
  let number ← Text.numeral? 8 digits
  if number < UInt64.size then some number else none

namespace Header

def field (header : Header) (offset size : Nat) : Bytes :=
  (header.block.drop offset).take size

/-- The sum of all bytes, those of the checksum field taken as spaces. -/
def byteSum (header : Header) : Nat :=
  ((header.field 0 148 ++ header.field 156 356).map UInt8.toNat).foldr (· + ·) (8 * 32)

/-- Whether the checksum field holds the sum of the bytes. -/
def isIntact (header : Header) : Bool :=
  octalField (header.field 148 8) == some header.byteSum

def isPosix (header : Header) : Bool :=
  header.field 257 8 == [0x75, 0x73, 0x74, 0x61, 0x72, 0x00, 0x30, 0x30]

def isGnu (header : Header) : Bool :=
  header.field 257 8 == [0x75, 0x73, 0x74, 0x61, 0x72, 0x20, 0x20, 0x00]

def typeByte (header : Header) : UInt8 :=
  header.block.getD 156 0

/-- What the member is. Members about the next one need a header of one of the families. -/
def kind (header : Header) : Kind :=
  let known := header.isPosix || header.isGnu
  match header.typeByte with
  | 0x00 | 0x30 => .file
  | 0x53 => .sparse
  | 0x4c => if known then .longName else .other
  | 0x4b => if known then .longLink else .other
  | 0x78 => if known then .extended else .other
  | _ => .other

def size (header : Header) : Option Nat :=
  let field := header.field 124 12
  if (field.getD 0 0) &&& 0x80 != 0 then some (Bytes.bigEndian (field.drop 4))
  else octalField field

/-- The path of the member. The POSIX family may give its beginning in a second field; a
backslash in the name also has that field looked at. -/
def path (header : Header) : Bytes :=
  let name := header.field 0 100
  let front := (header.field 345 155).upTo 0
  if header.isPosix && (!front.isEmpty || name.contains 0x5c) then
    (if front.isEmpty then [] else front ++ [0x2f]) ++ name.upTo 0
  else name.upTo 0

end Header

end SelfUpdate.Tar
