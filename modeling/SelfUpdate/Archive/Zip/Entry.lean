import SelfUpdate.Archive.Checksum
import SelfUpdate.Archive.Deflate.Inflate
import SelfUpdate.Archive.Zip.Directory
import SelfUpdate.Text.CodePage
import SelfUpdate.Text.Utf8

/-!
# Entries of a zip archive

What the directory says of an entry counts; the local header only tells where the
data begins. Extra fields of the directory header can widen its numbers, correct
the name, or say how the data is encrypted.
-/

namespace SelfUpdate.Zip

/-- An entry as the directory describes it. Its raw name is that of the last field that gives a
name. It is sealed if its data is encrypted in a way that needs a password, flagged or not. -/
structure Entry where
  name : String
  rawName : Bytes
  comment : String
  flags : Nat
  method : Nat
  sealed : Bool
  checksum : Nat
  compressedSize : Nat
  size : Nat
  unix : Bool
  attributes : Nat
  localOffset : Nat
  deriving DecidableEq, Repr

/-- How reading an extra field can stop: the bytes end, which ends all extra fields, or
the field is not valid. -/
inductive ExtraFault where
  | short
  | invalid
  deriving DecidableEq, Repr

/-- The number of `size` bytes at an offset of an extra field's bytes. -/
def extraNumber (bytes : Bytes) (offset size : Nat) : Except ExtraFault Nat :=
  match bytes.number? offset size with
  | some number => .ok number
  | none => .error .short

def demand (condition : Bool) : Except ExtraFault Unit :=
  if condition then .ok () else .error .invalid

/-- A number that the widening field replaces if it is all ones, or if the field holds
all three numbers: the number, and the offset behind it in the field. -/
def widen (bytes : Bytes) (length offset number : Nat) : Except ExtraFault (Nat × Nat) :=
  if 24 ≤ length || number = 0xffffffff then do
    return (← extraNumber bytes offset 8, offset + 8)
  else return (number, offset)

/-- The text in a field that corrects a name or comment: it must be for the text at hand,
as a checksum tells. -/
def correctedText (bytes : Bytes) (length : Nat) (current : Bytes) :
    Except ExtraFault (Bytes × String) := do
  let _ ← extraNumber bytes 0 1
  let checksum ← extraNumber bytes 1 4
  demand (5 ≤ length)
  let content ← (bytes.slice? 5 (length - 5)).elim (.error .short) .ok
  demand (checksum == (Checksum.crc32 current).toNat)
  match Text.decodeUtf8? content with
  | some text => return (content, text)
  | none => .error .invalid

def bitCount (number : Nat) : Nat :=
  ((List.range 8).filter number.testBit).length

/-- Take up one extra field. The bytes are those behind its length; the result also says
how many of them the field took. -/
def Entry.takeField (entry : Entry) (kind length : Nat) (bytes : Bytes) :
    Except ExtraFault (Entry × Nat) :=
  match kind with
  | 0x0001 => do
      let (size, offset) ← widen bytes length 0 entry.size
      let (compressedSize, offset) ← widen bytes length offset entry.compressedSize
      let (localOffset, offset) ← widen bytes length offset entry.localOffset
      demand (offset ≤ length)
      if bytes.length < length then .error .short
      else return ({ entry with size, compressedSize, localOffset }, length)
  | 0x000a => do
      demand (length == 32)
      let _ ← extraNumber bytes 0 4
      let tag ← extraNumber bytes 4 2
      demand (tag == 1)
      let size ← extraNumber bytes 6 2
      demand (size == 24)
      let _ ← extraNumber bytes 8 24
      return (entry, length)
  | 0x9901 => do
      demand (length == 7)
      let version ← extraNumber bytes 0 2
      let vendor ← extraNumber bytes 2 2
      let strength ← extraNumber bytes 4 1
      let method ← extraNumber bytes 5 2
      demand (vendor == 0x4541 && (version == 1 || version == 2))
      demand (1 ≤ strength && strength ≤ 3)
      return ({ entry with method, sealed := true }, length)
  | 0x5455 => do
      let flags ← extraNumber bytes 0 1
      demand (length == 5 || length == 1 + 4 * bitCount flags)
      demand (flags < 8)
      let times :=
        if length = 5 then 1 else bitCount flags
      let _ ← extraNumber bytes 1 (4 * times)
      return (entry, 1 + 4 * times)
  | 0x6375 => do
      let (_, comment) ← correctedText bytes length (Bytes.ofString entry.comment)
      return ({ entry with comment }, length)
  | 0x7075 => do
      let (rawName, name) ← correctedText bytes length entry.rawName
      return ({ entry with rawName, name }, length)
  | _ => if bytes.length < length then .error .short else .ok (entry, length)

/-- Take up all extra fields. Where the bytes end inside a field, what was taken up until
then counts. -/
def Entry.takeFields : (rounds : Nat) → Entry → Bytes → Option Entry
  | 0, entry, _ => some entry
  | rounds + 1, entry, bytes =>
      match bytes.number? 0 2, bytes.number? 2 2 with
      | some kind, some length =>
          match entry.takeField kind length (bytes.drop 4) with
          | .error .short => some entry
          | .error .invalid => none
          | .ok (entry, taken) => takeFields rounds entry (bytes.drop (4 + taken))
      | _, _ => some entry

/-- The method number of data encrypted in the way that the extra field describes. -/
def sealedMethod : Nat := 99

/-- Decode a name or comment: UTF-8 if the entry says so, else code page 437. -/
def decodeText (isUtf8 : Bool) (bytes : Bytes) : String :=
  if isUtf8 then Text.decodeLossy bytes else Text.decodeCodePage bytes

/-- The entry that the directory header at an offset describes, and the offset behind the
header. -/
def Entry.at? (file : Bytes) (shift offset : Nat) : Option (Entry × Nat) := do
  let header ← DirectoryHeader.at? file offset
  let rawName ← file.slice? (offset + 46) header.nameLength
  let extra ← file.slice? (offset + 46 + header.nameLength) header.extraLength
  let comment ←
    file.slice? (offset + 46 + header.nameLength + header.extraLength) header.commentLength
  let isUtf8 := header.flags.testBit 11
  let entry : Entry :=
    { name := decodeText isUtf8 rawName
      rawName
      comment := decodeText isUtf8 comment
      flags := header.flags
      method := header.method
      sealed := false
      checksum := header.checksum
      compressedSize := header.compressedSize
      size := header.size
      unix := header.madeBy == 3
      attributes := header.attributes
      localOffset := header.localOffset }
  let entry ← entry.takeFields (extra.length + 1) extra
  if entry.method = sealedMethod && !entry.sealed then none
  let localOffset := entry.localOffset + shift
  if UInt64.size ≤ localOffset then none
  return ({ entry with localOffset },
    offset + 46 + header.nameLength + header.extraLength + header.commentLength)

/-- The offset at which the data of an entry begins. -/
def Entry.dataOffset (entry : Entry) (file : Bytes) : Option Nat := do
  let header ← LocalHeader.at? file entry.localOffset
  return entry.localOffset + 30 + header.nameLength + header.extraLength

def readEntries (file : Bytes) (place : DirectoryPlace) :
    (count : Nat) → (offset : Nat) → Option (List Entry)
  | 0, _ => some []
  | count + 1, offset => do
      let (entry, offset) ← Entry.at? file place.shift offset
      return entry :: (← readEntries file place count offset)

def entriesAt (file : Bytes) (place : DirectoryPlace) : Option (List Entry) :=
  if place.sameDisk && place.start < UInt64.size then
    readEntries file place place.entries place.start
  else none

/-- The entries of an archive, by the first place at which they can be read. -/
def entries (file : Bytes) : Option (List Entry) :=
  (places file).findSome? fun place => place.bind (entriesAt file)

def lookUp (name : String) (entries : List Entry) : Option Entry :=
  entries.reverse.find? (·.name == name)

/-- Whether an entry is a file: its name does not end as a directory's does, and it is no
symbolic link. -/
def Entry.isFile (entry : Entry) : Bool :=
  let isDirectory := entry.name.toList.getLast?.any fun last => last == '/' || last == '\\'
  let isLink := entry.unix && ((entry.attributes >>> 16) &&& 0o120000) == 0o120000
  !isDirectory && !isLink

/-- What is there to read entries with whose data is neither stored nor deflated: it makes a
stream of the data of an entry, unless the data cannot even be begun to be read. -/
abbrev Decoders := Entry → Bytes → Option Stream

/-- No other data can be read. -/
def Decoders.none : Decoders := fun _ _ => .none

/-- The data of an entry decoded. Deflated data that runs out before its last block breaks
off, even if the checksum of what was made of it until then is right. -/
def Entry.decoded (decoders : Decoders) (entry : Entry) (data : Bytes) : Option Stream :=
  match entry.method with
  | 0 => some (.ofBytes data)
  | 8 =>
      match Deflate.inflate data with
      | (output, .finished _) => some (.ofBytes output)
      | (output, ending) => some ⟨Deflate.delivered output ending, false⟩
  | _ => decoders entry data

/-- A stream that ends only if its bytes have the checksum of the directory. -/
def Entry.verified (entry : Entry) (stream : Stream) : Stream :=
  { stream with ends := stream.ends && (Checksum.crc32 stream.bytes).toNat == entry.checksum }

/-- The content of an entry as a reader gets it, unless it is encrypted or not there. -/
def Entry.content (decoders : Decoders) (entry : Entry) (file : Bytes) : Option Stream := do
  if entry.flags.testBit 0 || entry.sealed then none
  let offset ← entry.dataOffset file
  let stream ← entry.decoded decoders ((file.drop offset).take entry.compressedSize)
  return entry.verified stream

end SelfUpdate.Zip
