import SelfUpdate.Proofs.Archive.Tar.Truncation
import SelfUpdate.Proofs.Archive.Zip.Extraction
import SelfUpdate.Proofs.Archive.Zip.Verification

/-!
# What kind of entry is extracted

Both formats say of an entry whether it is a regular file, a directory, a link or something
else.  A zip archive says so by the last character of the name and by the attributes, and a
tar archive by the type in the header.  But tar archives from before there was a type for
directories mark them by a slash behind the path alone, and the last part of a path is the
same with a slash behind it.  So links are never extracted, and neither is a zip entry that is
named as a directory, but a directory of such a tar archive is taken for a file without data.
-/

namespace SelfUpdate

/-- What an entry of an archive stands for. -/
inductive FileType where
  | regular
  | directory
  | link
  | special
  deriving DecidableEq, Repr

namespace Zip

/-- The name of an entry ends as that of a directory does. -/
def Entry.IsNamedAsDirectory (entry : Entry) : Prop :=
  entry.name.toList.getLast? ∈ [some '/', some '\\']

instance (entry : Entry) : Decidable entry.IsNamedAsDirectory :=
  inferInstanceAs (Decidable (_ ∈ _))

/-- The type that the attributes give.  The highest bits hold it for entries from a system
with such types; one of the lowest marks directories of other systems. -/
def Entry.attributeType (entry : Entry) : FileType :=
  match if entry.unix then entry.attributes >>> 28 else 0 with
  | 0o00 => if entry.attributes.testBit 4 then .directory else .regular
  | 0o04 => .directory
  | 0o10 => .regular
  | 0o12 => .link
  | _ => .special

def Entry.fileType (entry : Entry) : FileType :=
  if entry.IsNamedAsDirectory then .directory else entry.attributeType

/-- Some bytes are at the front of the content of the last entry with a name. -/
structure Gives (decoders : Decoders) (archive : Bytes) (name : String) (entry : Entry)
    (bytes : Bytes) : Prop where
  isLast : ∃ list, entries archive = some list ∧ IsLast name entry list
  isRecorded : ∃ offset, entry.RecordedAt archive offset
  isContent : ∃ content, entry.content decoders archive = some content ∧ bytes <+: content.bytes

variable {archive bytes : Bytes} {name : String} {limit : UInt64} {entry : Entry}

theorem not_isNamedAsDirectory_of_isFile (isFile : entry.isFile = true) :
    ¬entry.IsNamedAsDirectory := by
  intro named
  simp only [Entry.IsNamedAsDirectory, List.mem_cons, List.not_mem_nil, or_false] at named
  rcases named with last | last <;> simp [Entry.isFile, last] at isFile

/-- The bits of the type of a link are those by which an entry counts as one. -/
theorem attributeType_ne_link_of_isFile (isFile : entry.isFile = true) :
    entry.attributeType ≠ .link := by
  intro isLink
  unfold Entry.attributeType at isLink
  split at isLink
  · split at isLink <;> cases isLink
  · cases isLink
  · cases isLink
  · next type =>
    obtain ⟨unix, highest⟩ := (ite_eq_iff.mp type).resolve_right fun other => by cases other.2
    have mode : (entry.attributes >>> 16) >>> 12 = 0o12 := by rwa [← Nat.shiftRight_add]
    have marked : (entry.attributes >>> 16) &&& 0o120000 = 0o120000 :=
      (and_linkType _).trans (by rw [mode]; rfl)
    simp [Entry.isFile, unix, marked] at isFile
  · cases isLink

theorem fileType_of_isFile (isFile : entry.isFile = true) :
    ¬entry.IsNamedAsDirectory ∧ entry.fileType = entry.attributeType ∧ entry.fileType ≠ .link := by
  have named := not_isNamedAsDirectory_of_isFile isFile
  have same : entry.fileType = entry.attributeType := if_neg named
  exact ⟨named, same, same ▸ attributeType_ne_link_of_isFile isFile⟩

end Zip

namespace Tar

/-- The type of a member.  A slash behind the path marks a directory where the type in the
header is that of a file. -/
def Header.fileType (header : Header) (path : Bytes) : FileType :=
  match header.typeByte with
  | 0x00 | 0x30 | 0x37 | 0x53 => if path.getLast? = some 0x2f then .directory else .regular
  | 0x31 | 0x32 => .link
  | 0x35 => .directory
  | _ => .special

/-- Some bytes are the data, as far as it is there, behind the header of the first file with a
name. -/
structure Gives (stream : Stream) (name : Bytes) (header : Header) (path bytes : Bytes) :
    Prop where
  isFound : ∃ member reader, seekIn name stream = .ok (some (member, reader)) ∧
    member.path = path ∧ HeaderBefore stream reader.offset header ∧
      bytes = (stream.bytes.drop reader.offset).take member.size
  isNamed : fileName path = some name

theorem typeByte_of_kind {header : Header} (kind : header.kind = .file) :
    header.typeByte = 0x00 ∨ header.typeByte = 0x30 := by
  unfold Header.kind at kind
  dsimp only at kind
  split at kind
  · next isOld => exact Or.inl isOld
  · next isNew => exact Or.inr isNew
  · cases kind
  iterate 3 (· split at kind <;> cases kind)
  · cases kind

theorem fileType_of_kind {header : Header} (kind : header.kind = .file) (path : Bytes) :
    header.fileType path = if path.getLast? = some 0x2f then .directory else .regular := by
  rcases typeByte_of_kind kind with type | type <;> simp only [Header.fileType, type]

/-- A path that ends in a slash is never that of a regular file. -/
theorem fileType_ne_regular (header : Header) {path : Bytes} (slash : path.getLast? = some 0x2f) :
    header.fileType path ≠ .regular := by
  unfold Header.fileType
  split <;> simp [slash]

theorem fileName_append_slash_end (path : Bytes) : fileName (path ++ [0x2f]) = fileName path := by
  rw [fileName, List.splitOn_append_cons_self, List.filter_append, List.splitOn_nil]
  simp [fileName]

theorem gives_of_extractTar {decoders : Zip.Decoders} {entry : String} {archive bytes : Bytes}
    {limit : UInt64}
    (isTar : ArchiveFormat.sniff archive = .gzipTar)
    (extracted : extract decoders entry archive limit = .ok bytes) :
    ∃ header path, Gives (Gzip.content archive) (Bytes.ofString entry) header path bytes ∧
      header.kind = .file := by
  obtain ⟨member, reader, found⟩ : ∃ member reader,
      seekIn (Bytes.ofString entry) (Gzip.content archive) = .ok (some (member, reader)) := by
    rw [extract_eq_of_seekIn isTar] at extracted
    split at extracted
    · simp at extracted
    · simp at extracted
    · next member reader found => exact ⟨member, reader, found⟩
  obtain ⟨isAt, isFile, named⟩ := at_of_seek (Reader.isIn_ofStream _) found
  obtain ⟨header, _, before, kind, -⟩ := isAt.records isFile
  refine ⟨header, member.path, ⟨⟨member, reader, found, rfl, before, ?_⟩, named⟩, kind⟩
  rw [extract_of_seekIn decoders isTar limit found isAt] at extracted
  split at extracted
  · simp at extracted
  split at extracted
  · exact (Except.ok.inj extracted).symm
  · simp at extracted

end Tar

variable {entry : String} {archive bytes : Bytes} {limit : UInt64}

/-- What is extracted comes from an entry that is no link.  In a zip archive it is not named as
a directory, and is a regular file unless its attributes say otherwise.  In a tar archive it
has the type of a file, and is a regular file unless its path ends in a slash. -/
theorem fileType_of_extract (decoders : Zip.Decoders)
    (extracted : extract decoders entry archive limit = .ok bytes) :
    (∃ item, ArchiveFormat.sniff archive = .zip ∧ Zip.Gives decoders archive entry item bytes ∧
      ¬item.IsNamedAsDirectory ∧ item.fileType = item.attributeType ∧ item.fileType ≠ .link) ∨
    ∃ header path, ArchiveFormat.sniff archive = .gzipTar ∧
      Tar.Gives (Gzip.content archive) (Bytes.ofString entry) header path bytes ∧
      header.fileType path = if path.getLast? = some 0x2f then .directory else .regular := by
  rcases of_extract extracted with ⟨isZip, fromZip⟩ | ⟨isTar, -⟩
  · obtain ⟨list, item, content, isList, isItem, isContent, isFile, -, complete⟩ :=
      of_extractZip fromZip
    have member : item ∈ list := List.mem_reverse.mp (List.mem_of_find?_eq_some isItem)
    exact Or.inl ⟨item, isZip,
      ⟨⟨list, isList, Zip.lookUp_eq_some_iff.mp isItem⟩,
        Zip.recordedAt_of_mem_entries isList member,
        content, isContent, (Stream.of_readBounded complete).1⟩,
      Zip.fileType_of_isFile isFile⟩
  · obtain ⟨header, path, gives, kind⟩ := Tar.gives_of_extractTar isTar extracted
    exact Or.inr ⟨header, path, isTar, gives, Tar.fileType_of_kind kind path⟩

section Example

/-- An archive of one member, in a gzip member. -/
def Tar.singleFile (source : Tar.Source) : Bytes :=
  Gzip.file Tar.noHeading (Deflate.storedBlock (Tar.archive [source] 2)) (Tar.archive [source] 2) []

theorem sniff_singleFile (source : Tar.Source) :
    ArchiveFormat.sniff (Tar.singleFile source) = .gzipTar :=
  Gzip.sniff_file _ _ _ _

theorem content_singleFile {source : Tar.Source}
    (short : source.substance.content.length ≤ Tar.blockSize) :
    Gzip.content (Tar.singleFile source) = .ofBytes (Tar.archive [source] 2) := by
  refine Gzip.content_file Tar.noHeading (Deflate.encodes_storedBlock ?_) []
  simp only [Tar.archive, Tar.endBlocks, List.flatMap_singleton, List.length_append,
    List.length_replicate, source.length_layout, source.length_data, Tar.blockSize] at short ⊢
  omega

theorem seekIn_singleFile {source : Tar.Source} {name : Bytes}
    (short : source.substance.content.length ≤ Tar.blockSize)
    (matching : source.Matches name = true) :
    ∃ reader, Tar.seekIn name (Gzip.content (Tar.singleFile source)) =
      .ok (some (source.member, reader)) := by
  have parts : Tar.archive [source] 2 = source.header ++ (source.data ++ Tar.endBlocks 2) := by
    rw [Tar.archive, List.flatMap_singleton, Tar.Source.layout, List.append_assoc]
  rw [content_singleFile short, parts]
  exact ⟨_, seekIn_of_matches matching _ true⟩

theorem path_of_gives_singleFile {source : Tar.Source} {name path : Bytes} {header : Tar.Header}
    (short : source.substance.content.length ≤ Tar.blockSize)
    (matching : source.Matches name = true)
    (gives : Tar.Gives (Gzip.content (Tar.singleFile source)) name header path bytes) :
    path = source.member.path := by
  obtain ⟨member, reader, found, rfl, -⟩ := gives.isFound
  obtain ⟨_, isThere⟩ := seekIn_singleFile short matching
  obtain ⟨rfl, -⟩ : source.member = member ∧ _ = reader := by
    simpa using isThere.symm.trans found
  rfl

theorem extract_singleFile (decoders : Zip.Decoders) {source : Tar.Source}
    (short : source.substance.content.length ≤ Tar.blockSize)
    (matching : source.Matches (Bytes.ofString entry) = true)
    (within : source.substance.content.length ≤ limit.toNat) :
    extract decoders entry (Tar.singleFile source) limit = .ok source.substance.content := by
  have found : Tar.findIn (Bytes.ofString entry) (Gzip.content (Tar.singleFile source)) =
      .ok (some (source.member, .ofBytes source.substance.content)) := by
    rw [content_singleFile short, Tar.findIn_archive, if_pos]
    · simp [matching]
    · simp only [Tar.searched, matching, if_true, List.flatMap_singleton,
        source.length_layout, source.length_data, Tar.blockSize, UInt64.size] at short ⊢
      omega
  rw [extract, sniff_singleFile]
  dsimp only
  rw [extractTar, found]
  dsimp only
  rw [Stream.readBounded_ofBytes (Nat.lt_of_le_of_lt within limit.toNat_lt_size), if_pos within,
    Bounded.toResult]

/-- What the sample file is extracted from is a regular file. -/
theorem fileType_of_extract_sampleFile :
    extract .none "a" (Tar.singleFile Tar.sampleFile) 3 = .ok [0x01, 0x02, 0x03] ∧
      ∃ header path, Tar.Gives (Gzip.content (Tar.singleFile Tar.sampleFile))
        (Bytes.ofString "a") header path [0x01, 0x02, 0x03] ∧ header.fileType path = .regular := by
  have extracted : extract .none "a" (Tar.singleFile Tar.sampleFile) 3 =
      .ok [0x01, 0x02, 0x03] :=
    extract_singleFile .none (by decide) matches_sampleFile (by decide)
  refine ⟨extracted, ?_⟩
  rcases fileType_of_extract .none extracted with ⟨_, isZip, -⟩ | ⟨header, path, -, gives, type⟩
  · rw [sniff_singleFile] at isZip
    cases isZip
  · obtain rfl := path_of_gives_singleFile (by decide) matches_sampleFile gives
    exact ⟨header, _, gives, type⟩

/-- A directory as archives had them before there was a type for directories. -/
def oldDirectory : Tar.Source :=
  { Tar.sampleFile with
    name := [0x63, 0x6f, 0x64, 0x65, 0x72, 0x2f]
    substance := .file true []
    name_length := by decide
    name_plain := by decide
    content_length := by decide }

theorem matches_oldDirectory : oldDirectory.Matches (Bytes.ofString "coder") = true := by
  have name : Bytes.ofString "coder" = [0x63, 0x6f, 0x64, 0x65, 0x72] :=
    Bytes.ofString_ofList ['c', 'o', 'd', 'e', 'r']
  have last : Tar.fileName oldDirectory.name = some [0x63, 0x6f, 0x64, 0x65, 0x72] :=
    (Tar.fileName_append_slash_end [0x63, 0x6f, 0x64, 0x65, 0x72]).trans rfl
  rw [Tar.Source.Matches, last, name]
  rfl

/-- Not everything that is extracted comes from a regular file. -/
theorem not_regular_of_every_extraction :
    ¬∃ decoders : Zip.Decoders, ∀ (entry : String) (archive : Bytes) (limit : UInt64)
        (bytes : Bytes), extract decoders entry archive limit = .ok bytes →
        (∃ item, ArchiveFormat.sniff archive = .zip ∧ Zip.Gives decoders archive entry item bytes ∧
          item.fileType = .regular) ∨
        ∃ header path, ArchiveFormat.sniff archive = .gzipTar ∧
          Tar.Gives (Gzip.content archive) (Bytes.ofString entry) header path bytes ∧
          header.fileType path = .regular := by
  rintro ⟨decoders, regular⟩
  have extracted : extract decoders "coder" (Tar.singleFile oldDirectory) 0 = .ok [] :=
    extract_singleFile decoders (by decide) matches_oldDirectory (by decide)
  rcases regular "coder" (Tar.singleFile oldDirectory) 0 [] extracted with
    ⟨_, isZip, -⟩ | ⟨header, path, -, gives, type⟩
  · rw [sniff_singleFile] at isZip
    cases isZip
  · obtain rfl := path_of_gives_singleFile (by decide) matches_oldDirectory gives
    exact Tar.fileType_ne_regular header rfl type

end Example

end SelfUpdate
