import SelfUpdate.Archive.Zip.Record

/-!
# Where the directory of a zip archive lies

The end record nearest the end of the file that makes sense counts. Its offsets
may be too small by as much as there is data in front of the archive: the shift is
found by looking for the first directory header, or for the wide end record, from
the place the offsets name.
-/

namespace SelfUpdate.Zip

/-- Where the directory lies, and whether it is on the disk that the archive is on. The shift
tells how far the archive begins behind the beginning of the file. -/
structure DirectoryPlace where
  shift : Nat
  start : Nat
  entries : Nat
  sameDisk : Bool
  deriving DecidableEq, Repr

/-- The places from `first` on, before `stop`, at which a signature lies wholly. -/
def signaturePlaces (file signature : Bytes) (first stop : Nat) : List Nat :=
  (List.range' first (stop + 1 - signature.length - first)).filter fun offset =>
    signature.isPrefixOf (file.drop offset)

/-- Whether the locator of a wide end record should be looked for. -/
def EndRecord.maySaturate (record : EndRecord) : Bool :=
  record.entries == 0xffff || record.directoryOffset == 0xffffffff

/-- The locator in front of an end record at an offset. -/
def locatorBefore (file : Bytes) (record : EndRecord) (offset : Nat) : Option Locator :=
  if record.maySaturate && 20 ≤ offset then Locator.at? file (offset - 20) else none

/-- The place that an end record at an offset gives without a wide one. -/
def narrowPlace (file : Bytes) (record : EndRecord) (offset : Nat) : Option DirectoryPlace :=
  let place (shift : Nat) : DirectoryPlace :=
    { shift
      start := record.directoryOffset + shift
      entries := record.entriesHere
      sameDisk := record.disk == record.directoryDisk }
  if record.entries = 0 then some (place (offset - record.directoryOffset))
  else if offset ≤ record.directoryOffset then none
  else
    match signaturePlaces file directorySignature record.directoryOffset offset with
    | [] => none
    | found :: _ => some (place (found - record.directoryOffset))

/-- Whether a wide end record found at an offset agrees with its locator at another. -/
def WideEndRecord.agrees (record : WideEndRecord) (locator : Locator)
    (offset locatorOffset : Nat) : Bool :=
  44 ≤ record.recordSize && offset + record.recordSize + 12 == locatorOffset &&
    record.directoryDisk == locator.directoryDisk &&
    record.entries * 46 + record.directoryOffset ≤ offset

/-- What makes a wide end record that was found unusable. -/
def WideEndRecord.isUsable (record : WideEndRecord) : Bool :=
  record.entriesHere ≤ record.entries && record.versionNeeded ≤ record.versionMade

/-- The wide end record that a locator at an offset leads to, with its own offset. -/
def wideEnd (file : Bytes) (locator : Locator) (locatorOffset : Nat) :
    Option (WideEndRecord × Nat) :=
  if locatorOffset ≤ locator.wideEndOffset || 1 < locator.disks then none
  else
    (signaturePlaces file wideEndSignature locator.wideEndOffset locatorOffset).findSome?
      fun offset => do
        let record ← WideEndRecord.at? file offset
        if record.agrees locator offset locatorOffset then some (record, offset) else none

/-- The end records and places that an archive may be read by, the nearest to the end
first. A place that is found but unusable is `none`. -/
def places (file : Bytes) : List (Option DirectoryPlace) :=
  (signaturePlaces file endSignature 0 file.length).reverse.filterMap fun offset => do
    let record ← EndRecord.at? file offset
    match locatorBefore file record offset with
    | none => (narrowPlace file record offset).map some
    | some locator =>
        let (wide, found) ← wideEnd file locator (offset - 20)
        if !wide.isUsable then return none
        let shift := found - locator.wideEndOffset
        return some {
          shift
          start := wide.directoryOffset + shift
          entries := wide.entries
          sameDisk := wide.disk == wide.directoryDisk }

end SelfUpdate.Zip
