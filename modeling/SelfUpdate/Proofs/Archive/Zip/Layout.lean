import SelfUpdate.Archive.Zip.Entry
import SelfUpdate.Proofs.Archive.Gzip
import SelfUpdate.Proofs.Text.Ascii

/-!
# How a zip archive is written

Each entry is written as a local header with its data behind it.  Then comes the directory,
with a header for each entry that says where the local header lies, and an end record that
says where the directory lies.
-/

namespace SelfUpdate.Zip

/-- How the content of an entry is turned into its data. -/
inductive Packing (content : Bytes) where
  | stored
  | deflated (data : Bytes) (encodes : Deflate.Encodes data content)

namespace Packing

variable {content : Bytes}

def method : Packing content → Nat
  | .stored => 0
  | .deflated _ _ => 8

def data : Packing content → Bytes
  | .stored => content
  | .deflated data _ => data

end Packing

/-- What the headers of an entry can say besides how to read it.  Versions, times and disks are
passed over, and the extra field stands in front of the data. -/
structure Details where
  system : Nat
  flags : Nat
  attributes : Nat
  versionMade : Nat
  versionNeeded : Nat
  time : Nat
  disk : Nat
  internal : Nat
  extra : Bytes
  comment : Bytes
  system_lt : system < 0x100
  flags_lt : flags < 0x10000
  attributes_lt : attributes < 0x100000000
  notEncrypted : flags.testBit 0 = false
  extra_length : extra.length < 0x10000
  comment_length : comment.length < 0x10000

/-- An entry to be written. -/
structure Source where
  letters : List Char
  content : Bytes
  packing : Packing content
  details : Details
  isAscii : Text.IsAscii letters
  letters_length : letters.length < 0x10000
  content_length : content.length < 0x100000000

/-- The type of a symbolic link, in the highest bits of the attributes of an entry from a
system with such types. -/
def linkType : Nat := 0o120000

/-- Whether the attributes of an entry have the bits of the type of a symbolic link. -/
def marksLink (attributes : Nat) : Bool :=
  (attributes >>> 16) &&& linkType == linkType

/-- The types that files can have: pipes, character devices, directories, block devices,
regular files, symbolic links and sockets. -/
def fileTypes : List Nat :=
  [0o010000, 0o020000, 0o040000, 0o060000, 0o100000, linkType, 0o140000]

/-- A record: its signature, and numbers of given sizes. -/
def record (signature : Bytes) (fields : List (Nat × Nat)) : Bytes :=
  signature ++ fields.flatMap fun (size, number) => Bytes.ofNumber size number

namespace Source

variable (source : Source)

def name : String :=
  String.ofList source.letters

/-- Whether an entry counts as a file: its name does not end as that of a directory does,
and it is no symbolic link. -/
def isFile : Bool :=
  !(source.letters.getLast?.any fun last => last == '/' || last == '\\') &&
    !(source.details.system == 3 && marksLink source.details.attributes)

def rawName : Bytes :=
  source.letters.map Text.asciiByte

def checksum : Nat :=
  (Checksum.crc32 source.content).toNat

def localRecord : Bytes :=
  record localSignature
    [(2, source.details.versionNeeded), (2, source.details.flags), (2, source.packing.method),
      (4, source.details.time), (4, source.checksum), (4, source.packing.data.length),
      (4, source.content.length), (2, source.letters.length), (2, source.details.extra.length)]

/-- The local header and the data. -/
def layout : Bytes :=
  source.localRecord ++ (source.rawName ++ (source.details.extra ++ source.packing.data))

/-- The fixed part of the directory header, with the offset of the local header. -/
def directoryRecord (offset : Nat) : Bytes :=
  record directorySignature
    [(1, source.details.versionMade), (1, source.details.system),
      (2, source.details.versionNeeded), (2, source.details.flags), (2, source.packing.method),
      (4, source.details.time), (4, source.checksum), (4, source.packing.data.length),
      (4, source.content.length), (2, source.letters.length), (2, 0),
      (2, source.details.comment.length), (2, source.details.disk), (2, source.details.internal),
      (4, source.details.attributes), (4, offset)]

def directoryHeader (offset : Nat) : Bytes :=
  source.directoryRecord offset ++ (source.rawName ++ source.details.comment)

end Source

/-- The entries with the offsets of their local headers, the first at an offset. -/
def placed (offset : Nat) : List Source → List (Source × Nat)
  | [] => []
  | source :: sources =>
      (source, offset) :: placed (offset + source.layout.length) sources

def locals (sources : List Source) : Bytes :=
  sources.flatMap Source.layout

def directory (sources : List Source) : Bytes :=
  (placed 0 sources).flatMap fun (source, offset) => source.directoryHeader offset

/-- The end record, without a comment. -/
def endRecord (sources : List Source) : Bytes :=
  record endSignature
    [(2, 0), (2, 0), (2, sources.length), (2, sources.length), (4, (directory sources).length),
      (4, (locals sources).length), (2, 0)]

def archive (sources : List Source) : Bytes :=
  locals sources ++ (directory sources ++ endRecord sources)

end SelfUpdate.Zip
