import SelfUpdate.Bytes.Basic

/-!
# Archive formats

The format of a payload is decided by its first bytes alone, never by the name it
was fetched under.
-/

namespace SelfUpdate

/-- The archive formats that releases are published in. -/
inductive ArchiveFormat where
  | zip
  | gzipTar
  | unknown
  deriving DecidableEq, Repr

namespace ArchiveFormat

def zipEntrySignature : Bytes := [0x50, 0x4b, 0x03, 0x04]

/-- The signature with which a zip without entries begins. -/
def zipEndSignature : Bytes := [0x50, 0x4b, 0x05, 0x06]

def gzipSignature : Bytes := [0x1f, 0x8b, 0x08]

/-- The format that the first bytes of a payload show. -/
def sniff (payload : Bytes) : ArchiveFormat :=
  if zipEntrySignature.isPrefixOf payload || zipEndSignature.isPrefixOf payload then .zip
  else if gzipSignature.isPrefixOf payload then .gzipTar
  else .unknown

def name : ArchiveFormat → String
  | .zip => "zip"
  | .gzipTar => "gzip-tar"
  | .unknown => "unknown"

end ArchiveFormat

end SelfUpdate
