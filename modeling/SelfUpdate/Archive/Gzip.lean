import SelfUpdate.Archive.Checksum
import SelfUpdate.Archive.Deflate.Inflate

/-!
# Gzip

A gzip member is a header, deflate data, and a trailer with the checksum and the
length of the content. Only the first member of a file is read. Whether the
trailer is right is found out by reading up to it: until then the content is
delivered as it comes.
-/

namespace SelfUpdate.Gzip

/-- The flags of a header that announce further fields, and whether one is set that has no
meaning and must not be. -/
structure Flags where
  headerChecksum : Bool
  extraField : Bool
  fileName : Bool
  comment : Bool
  reserved : Bool
  deriving DecidableEq, Repr

def Flags.ofByte (byte : UInt8) : Flags where
  headerChecksum := byte &&& 0x02 != 0
  extraField := byte &&& 0x04 != 0
  fileName := byte &&& 0x08 != 0
  comment := byte &&& 0x10 != 0
  reserved := byte &&& 0xe0 != 0

def maxText : Nat := 65535

/-- The length of the extra field with its length in front, if one is announced. -/
def extraFieldSize (present : Bool) (rest : Bytes) : Option Nat :=
  if present then do
    let length ← rest.number? 0 2
    if 2 + length ≤ rest.length then some (2 + length) else none
  else some 0

/-- The length of a text field with the NUL behind it, if one is announced. -/
def textSize (present : Bool) (rest : Bytes) : Option Nat :=
  if present then
    let length := (rest.upTo 0).length
    if length < rest.length && length ≤ maxText then some (length + 1) else none
  else some 0

/-- The length of the header in front of the deflate data, if the header is valid. -/
def headerSize (file : Bytes) : Option Nat := do
  let fixed ← file.slice? 0 10
  if fixed.take 3 != [0x1f, 0x8b, 0x08] then none
  let flags := Flags.ofByte (fixed.getD 3 0)
  if flags.reserved then none
  let extra ← extraFieldSize flags.extraField (file.drop 10)
  let name ← textSize flags.fileName (file.drop (10 + extra))
  let comment ← textSize flags.comment (file.drop (10 + extra + name))
  let size := 10 + extra + name + comment
  if flags.headerChecksum then
    let stored ← file.number? size 2
    let expected := (Checksum.crc32 (file.take size)).toNat % 0x10000
    if stored = expected then some (size + 2) else none
  else some size

/-- Whether the bytes behind the deflate data begin with the trailer of a content. -/
def trailerMatches (content rest : Bytes) : Bool :=
  rest.number? 0 4 == some (Checksum.crc32 content).toNat &&
    rest.number? 4 4 == some (content.length % UInt32.size)

/-- The content of the first member, as a reader of the file gets it. -/
def content (file : Bytes) : Stream :=
  match headerSize file with
  | none => ⟨[], false⟩
  | some size =>
      let (output, ending) := Deflate.inflate (file.drop size)
      match ending with
      | .finished rest => ⟨output, trailerMatches output rest⟩
      | ending => ⟨Deflate.delivered output ending, false⟩

end SelfUpdate.Gzip
