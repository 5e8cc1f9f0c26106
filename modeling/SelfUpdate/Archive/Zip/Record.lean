import SelfUpdate.Bytes.Basic

/-!
# The fixed parts of a zip archive

A zip archive holds entries, each behind a local header, then a directory with one
header for each entry, and an end record that says where the directory lies. Large
archives have a second end record with wider numbers, and a locator that says
where it is. All records begin with a signature; their places are offsets from the
beginning of the file.
-/

namespace SelfUpdate.Zip

def localSignature : Bytes := [0x50, 0x4b, 0x03, 0x04]

def directorySignature : Bytes := [0x50, 0x4b, 0x01, 0x02]

def endSignature : Bytes := [0x50, 0x4b, 0x05, 0x06]

def wideEndSignature : Bytes := [0x50, 0x4b, 0x06, 0x06]

def locatorSignature : Bytes := [0x50, 0x4b, 0x06, 0x07]

/-- The fixed part of a local header, as far as it matters. -/
structure LocalHeader where
  nameLength : Nat
  extraLength : Nat
  deriving DecidableEq, Repr

/-- The fixed part of a directory header. It tells the system that made the entry. -/
structure DirectoryHeader where
  madeBy : Nat
  flags : Nat
  method : Nat
  checksum : Nat
  compressedSize : Nat
  size : Nat
  nameLength : Nat
  extraLength : Nat
  commentLength : Nat
  attributes : Nat
  localOffset : Nat
  deriving DecidableEq, Repr

structure EndRecord where
  disk : Nat
  directoryDisk : Nat
  entriesHere : Nat
  entries : Nat
  directoryOffset : Nat
  commentLength : Nat
  deriving DecidableEq, Repr

structure Locator where
  directoryDisk : Nat
  wideEndOffset : Nat
  disks : Nat
  deriving DecidableEq, Repr

structure WideEndRecord where
  recordSize : Nat
  versionMade : Nat
  versionNeeded : Nat
  disk : Nat
  directoryDisk : Nat
  entriesHere : Nat
  entries : Nat
  directoryOffset : Nat
  deriving DecidableEq, Repr

/-- A record of fixed size with its signature, at an offset. -/
def recordAt (file signature : Bytes) (offset size : Nat) : Option Bytes := do
  let record ← file.slice? offset size
  if signature.isPrefixOf record then some record else none

def fieldOf (record : Bytes) (offset size : Nat) : Nat :=
  Bytes.littleEndian ((record.drop offset).take size)

def LocalHeader.at? (file : Bytes) (offset : Nat) : Option LocalHeader := do
  let record ← recordAt file localSignature offset 30
  return { nameLength := fieldOf record 26 2, extraLength := fieldOf record 28 2 }

def DirectoryHeader.at? (file : Bytes) (offset : Nat) : Option DirectoryHeader := do
  let record ← recordAt file directorySignature offset 46
  return {
    madeBy := fieldOf record 5 1
    flags := fieldOf record 8 2
    method := fieldOf record 10 2
    checksum := fieldOf record 16 4
    compressedSize := fieldOf record 20 4
    size := fieldOf record 24 4
    nameLength := fieldOf record 28 2
    extraLength := fieldOf record 30 2
    commentLength := fieldOf record 32 2
    attributes := fieldOf record 38 4
    localOffset := fieldOf record 42 4 }

/-- The end record at an offset. Its comment must not reach beyond the end of the file. -/
def EndRecord.at? (file : Bytes) (offset : Nat) : Option EndRecord := do
  let record ← recordAt file endSignature offset 22
  let commentLength := fieldOf record 20 2
  if file.length < offset + 22 + commentLength then none
  return {
    disk := fieldOf record 4 2
    directoryDisk := fieldOf record 6 2
    entriesHere := fieldOf record 8 2
    entries := fieldOf record 10 2
    directoryOffset := fieldOf record 16 4
    commentLength }

def Locator.at? (file : Bytes) (offset : Nat) : Option Locator := do
  let record ← recordAt file locatorSignature offset 20
  return {
    directoryDisk := fieldOf record 4 4
    wideEndOffset := fieldOf record 8 8
    disks := fieldOf record 16 4 }

def WideEndRecord.at? (file : Bytes) (offset : Nat) : Option WideEndRecord := do
  let record ← recordAt file wideEndSignature offset 56
  return {
    recordSize := fieldOf record 4 8
    versionMade := fieldOf record 12 2
    versionNeeded := fieldOf record 14 2
    disk := fieldOf record 16 4
    directoryDisk := fieldOf record 20 4
    entriesHere := fieldOf record 24 8
    entries := fieldOf record 32 8
    directoryOffset := fieldOf record 48 8 }

end SelfUpdate.Zip
