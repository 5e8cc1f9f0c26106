import SelfUpdate.Archive.Gzip
import SelfUpdate.Archive.Tar.Member
import SelfUpdate.Archive.Zip.Entry
import SelfUpdate.Product
import SelfUpdate.Update.Error

/-!
# Extracting one file from an archive

Zip entries are found by their exact name, tar members by the last part of their
path, and only files count. No more than a limit is ever taken from an entry.
-/

namespace SelfUpdate

def Bounded.toResult (entry : String) (format : ArchiveFormat) (limit : UInt64) :
    Bounded → Except ArchiveError Bytes
  | .complete bytes => .ok bytes
  | .tooLarge => .error (.entryTooLarge entry limit)
  | .broken => .error (.corrupt format)

/-- Extract an entry from a zip archive. What the directory declares as its size is
checked before anything is read. -/
def extractZip (decoders : Zip.Decoders) (entry : String) (archive : Bytes) (limit : UInt64) :
    Except ArchiveError Bytes :=
  match Zip.entries archive with
  | none => .error (.corrupt .zip)
  | some entries =>
      match Zip.lookUp entry entries with
      | none => .error (.entryNotFound entry)
      | some found =>
          match found.content decoders archive with
          | none => .error (.corrupt .zip)
          | some content =>
              if !found.isFile then .error (.entryNotFound entry)
              else if limit.toNat < found.size then .error (.entryTooLarge entry limit)
              else (content.readBounded limit).toResult entry .zip limit

def extractTar (entry : String) (archive : Bytes) (limit : UInt64) :
    Except ArchiveError Bytes :=
  match Tar.findIn (Bytes.ofString entry) (Gzip.content archive) with
  | .error _ => .error (.corrupt .gzipTar)
  | .ok none => .error (.entryNotFound entry)
  | .ok (some (_, content)) => (content.readBounded limit).toResult entry .gzipTar limit

/-- Extract a file of at most `limit` bytes from an archive of either format. -/
def extract (decoders : Zip.Decoders) (entry : String) (archive : Bytes) (limit : UInt64) :
    Except ArchiveError Bytes :=
  match ArchiveFormat.sniff archive with
  | .zip => extractZip decoders entry archive limit
  | .gzipTar => extractTar entry archive limit
  | .unknown => .error .unknownFormat

/-- Extract this program's binary from a release archive. -/
def extractBinary (decoders : Zip.Decoders) (archive : Bytes) : Except ArchiveError Bytes :=
  extract decoders binaryName archive maxBinarySize

end SelfUpdate
