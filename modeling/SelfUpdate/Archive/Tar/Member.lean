import SelfUpdate.Archive.Stream
import SelfUpdate.Archive.Tar.Record

/-!
# Members of a tar archive

Members are read one after the other from a stream. Headers that only say
something about the next member are taken up into that member. A block of zeros or
the end of the stream ends the archive.
-/

namespace SelfUpdate.Tar

/-- A place in an archive: the rest of its stream, how much was read, and where the next
header lies. -/
structure Reader where
  stream : Stream
  offset : Nat
  next : Nat

/-- What headers before a member say about it. -/
structure Announced where
  longName : Option Bytes
  longLink : Option Bytes
  records : Option Bytes

/-- A member. The reader stands at its data. -/
structure Member where
  path : Bytes
  isFile : Bool
  size : Nat
  deriving DecidableEq, Repr

def Announced.nothing : Announced := ⟨none, none, none⟩

def Reader.ofStream (stream : Stream) : Reader := ⟨stream, 0, 0⟩

def broken {α : Type} : Except Broken α := .error .broken

def required {α : Type} : Option α → Except Broken α
  | some value => .ok value
  | none => broken

namespace Reader

def read (reader : Reader) (count : Nat) : Except Broken (Bytes × Reader) := do
  let (bytes, stream) ← reader.stream.read count
  return (bytes, { reader with stream, offset := reader.offset + bytes.length })

/-- Go on to the next header. The data of a member passed over must be there. -/
def skip (reader : Reader) : Except Broken Reader := do
  let (bytes, reader') ← reader.read (reader.next - reader.offset)
  if bytes.length < reader.next - reader.offset then broken else return reader'

/-- Read a whole block, or nothing at the end of the stream. -/
def block (reader : Reader) : Except Broken (Option Bytes × Reader) := do
  let (bytes, reader) ← reader.read blockSize
  if bytes.isEmpty then return (none, reader)
  else if bytes.length < blockSize then broken
  else return (some bytes, reader)

/-- Read the next header; there is none at the end of the archive. -/
def header (reader : Reader) : Except Broken (Option Header × Reader) := do
  let reader ← reader.skip
  match ← reader.block with
  | (none, reader) => return (none, reader)
  | (some block, reader) =>
      if block.all (· == 0) then return (none, reader)
      else if Header.isIntact ⟨block⟩ then
        return (some ⟨block⟩, { reader with next := reader.offset })
      else broken

/-- Note where the header after data of the given size lies. -/
def enter (reader : Reader) (size : Nat) : Except Broken Reader :=
  let padded := (size + (blockSize - 1)) / blockSize * blockSize
  if size + (blockSize - 1) < UInt64.size && reader.next + padded < UInt64.size then
    .ok { reader with next := reader.next + padded }
  else broken

end Reader

/-- The size of a member: what the records say, if they do, and else what the header
says. The header's own size must be readable in any case. -/
def memberSize (header : Header) (records : Option Bytes) : Except Broken Nat := do
  let size ← required header.size
  return ((records.map Record.ofContent).bind recordedSize).getD size

/-- The path of a member: an announced long name, else what the records say, else what
the header says. -/
def memberPath (header : Header) (announced : Announced) : Bytes :=
  match announced.longName with
  | some name => if name.getLast? = some 0 then name.dropLast else name
  | none =>
      ((announced.records.map Record.ofContent).bind recordedPath).getD header.path

/-- The state of checking the map of a sparse file: where the last piece ended, and how
much of the stored data is not yet accounted for. -/
structure SparseMap where
  position : Nat
  remaining : Nat

/-- Take up one piece of the map: 12 octal bytes of offset and 12 of length. -/
def SparseMap.add (size : Nat) (map : SparseMap) (piece : Bytes) : Except Broken SparseMap := do
  if piece.getD 0 0 = 0 || piece.getD 12 0 = 0 then return map
  let offset ← required (octalField (piece.take 12))
  let length ← required (octalField ((piece.drop 12).take 12))
  if length != 0 && (size - map.remaining) % blockSize != 0 then broken
  if offset < map.position || UInt64.size ≤ offset + length || map.remaining < length then broken
  return ⟨offset + length, map.remaining - length⟩

/-- The pieces of 24 bytes at the front of some bytes. -/
def pieces : (count : Nat) → Bytes → List Bytes
  | 0, _ => []
  | count + 1, bytes => bytes.take 24 :: pieces count (bytes.drop 24)

/-- Read the blocks that continue the map of a sparse file. -/
def readSparseBlocks (size : Nat) :
    (rounds : Nat) → SparseMap → Reader → Except Broken (SparseMap × Reader)
  | 0, _, _ => broken
  | rounds + 1, map, reader => do
      match ← reader.block with
      | (none, _) => broken
      | (some block, reader) =>
          let map ← (pieces 21 block).foldlM (SparseMap.add size) map
          let reader := { reader with next := reader.next + blockSize }
          if block.getD 504 0 = 1 then readSparseBlocks size rounds map reader
          else return (map, reader)

/-- Check the map of a sparse file, which only the GNU family has. -/
def checkSparse (header : Header) (size : Nat) (reader : Reader) : Except Broken Reader := do
  if !header.isGnu then broken
  let map ← (pieces 4 (header.field 386 96)).foldlM (SparseMap.add size) ⟨0, size⟩
  let (map, reader) ←
    if header.block.getD 482 0 = 1 then
      readSparseBlocks size (reader.stream.bytes.length + 1) map reader
    else pure (map, reader)
  let whole ← required (octalField (header.field 483 12))
  if map.position != whole || map.remaining != 0 then broken
  return reader

/-- Read the next member. Every header takes a block, so as many rounds as there are
bytes are enough. The archive must not end after a header about a next member. -/
def readMember :
    (rounds : Nat) → Announced → Reader → Except Broken (Option (Member × Reader))
  | 0, _, _ => broken
  | rounds + 1, announced, reader => do
      match ← reader.header with
      | (none, _) =>
          if announced.longName.isNone && announced.longLink.isNone && announced.records.isNone
          then return none
          else broken
      | (some header, reader) =>
          let size ← memberSize header announced.records
          let reader ← reader.enter size
          match header.kind with
          | .longName =>
              if announced.longName.isSome then broken
              let (content, reader) ← reader.read size
              readMember rounds { announced with longName := some content } reader
          | .longLink =>
              if announced.longLink.isSome then broken
              let (content, reader) ← reader.read size
              readMember rounds { announced with longLink := some content } reader
          | .extended =>
              if announced.records.isSome then broken
              let (content, reader) ← reader.read size
              readMember rounds { announced with records := some content } reader
          | .sparse =>
              let reader ← checkSparse header size reader
              return some (⟨memberPath header announced, false, size⟩, reader)
          | kind => return some (⟨memberPath header announced, kind == .file, size⟩, reader)

/-- The last part of a path between slashes, if it is a name: empty parts and `.` do not
count, and `..` is no name. -/
def fileName (path : Bytes) : Option Bytes :=
  match ((path.splitOn 0x2f).filter fun part => part != [] && part != [0x2e]).getLast? with
  | some part => if part = [0x2e, 0x2e] then none else some part
  | none => none

/-- Find the first file with a name, at any depth, and its data as a stream. -/
def find (name : Bytes) : (rounds : Nat) → Reader → Except Broken (Option (Member × Stream))
  | 0, _ => broken
  | rounds + 1, reader => do
      match ← readMember (reader.stream.bytes.length + 1) .nothing reader with
      | none => return none
      | some (member, reader) =>
          if member.isFile && fileName member.path == some name then
            return some (member, reader.stream.limit member.size)
          else find name rounds reader

/-- Find the first file with a name in the archive that a stream delivers. -/
def findIn (name : Bytes) (stream : Stream) : Except Broken (Option (Member × Stream)) :=
  find name (stream.bytes.length + 1) (.ofStream stream)

end SelfUpdate.Tar
