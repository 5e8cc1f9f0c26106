import SelfUpdate.Proofs.Archive.Tar.Extraction
import SelfUpdate.Proofs.Archive.Tar.Position

/-!
# Data that is cut off

The data of a file is as long as the size that is recorded for it, unless the stream is
over before.  A stream can be over in two ways.  If it fails, then so does extraction.  But
if it ends, because the compressed data is complete although the archive in it is not, then
what there is of the file is taken for all of it.
-/

namespace SelfUpdate

namespace Tar

/-- The first file with a name, and a reader behind its header. -/
def seek (name : Bytes) : (rounds : Nat) → Reader → Except Broken (Option (Member × Reader))
  | 0, _ => broken
  | rounds + 1, reader => do
      match ← readMember (reader.stream.bytes.length + 1) .nothing reader with
      | none => return none
      | some (member, reader) =>
          if member.isFile && fileName member.path == some name then
            return some (member, reader)
          else seek name rounds reader

/-- The first file with a name in the archive that a stream delivers. -/
def seekIn (name : Bytes) (stream : Stream) : Except Broken (Option (Member × Reader)) :=
  seek name (stream.bytes.length + 1) (.ofStream stream)

variable {name : Bytes} {stream : Stream} {reader after : Reader} {member : Member}

theorem find_eq_seek (name : Bytes) (rounds : Nat) (reader : Reader) :
    find name rounds reader = (seek name rounds reader).map fun found =>
      found.map fun (member, behind) => (member, behind.stream.limit member.size) := by
  induction rounds generalizing reader with
  | zero => rfl
  | succ rounds ih =>
      rw [find, seek]
      rcases readMember (reader.stream.bytes.length + 1) .nothing reader with
        fault | _ | ⟨member, behind⟩
      · rfl
      · rfl
      · change (if _ then _ else find name rounds behind) =
          Except.map _ (if _ then _ else seek name rounds behind)
        rw [ih]
        split <;> rfl

/-- What is found is a file with the name, and the size of its data is recorded. -/
theorem at_of_seek {rounds : Nat} (before : reader.IsIn stream)
    (found : seek name rounds reader = .ok (some (member, after))) :
    member.At stream after ∧ member.isFile = true ∧ fileName member.path = some name := by
  induction rounds generalizing reader with
  | zero => simp [seek, broken] at found
  | succ rounds ih =>
      obtain ⟨next, isNext, found⟩ := of_bind_eq_ok found
      cases next with
      | none => simp [pure, Except.pure] at found
      | some next =>
          have noneAnnounced : Announced.nothing.IsIn stream := by
            simp [Announced.IsIn, Announced.nothing]
          have isAt := at_of_readMember noneAnnounced before isNext
          dsimp only at found
          split at found
          · next isFound =>
              obtain ⟨rfl, rfl⟩ : next.1 = member ∧ next.2 = after := by
                simpa [pure, Except.pure, Prod.ext_iff] using found
              simp only [Bool.and_eq_true, beq_iff_eq] at isFound
              exact ⟨isAt, isFound⟩
          · exact ih isAt.isIn found

end Tar

/-- A stream of fewer bytes than any limit can stop is read to where it ends or fails, or
to the limit. -/
theorem Stream.readBounded_of_length_lt {stream : Stream}
    (short : stream.bytes.length < greatestLimit.toNat) (limit : UInt64) :
    stream.readBounded limit =
      if limit.toNat < stream.bytes.length then .tooLarge
      else if stream.ends = true then .complete stream.bytes
      else .broken := by
  rcases Nat.lt_or_eq_of_le (toNat_le_greatestLimit limit) with less | same
  · exact readBounded_of_lt less
  · obtain rfl := UInt64.toNat_inj.mp same
    have notReached : ¬greatestLimit.toNat ≤ stream.bytes.length := Nat.not_le.mpr short
    rw [readBounded_greatestLimit, if_neg (Nat.lt_asymm short),
      List.take_of_length_le (Nat.le_of_lt short)]
    exact if_congr (or_iff_left notReached) rfl rfl

variable {decoders : Zip.Decoders} {payload : Bytes} {entry : String}

theorem extract_eq_of_seekIn (isTar : ArchiveFormat.sniff payload = .gzipTar) (limit : UInt64) :
    extract decoders entry payload limit =
      match Tar.seekIn (Bytes.ofString entry) (Gzip.content payload) with
      | .error _ => .error (.corrupt .gzipTar)
      | .ok none => .error (.entryNotFound entry)
      | .ok (some (member, reader)) =>
          ((reader.stream.limit member.size).readBounded limit).toResult entry .gzipTar limit := by
  rw [extract, isTar]
  dsimp only
  rw [extractTar, Tar.findIn, Tar.find_eq_seek, Tar.seekIn]
  rcases Tar.seek (Bytes.ofString entry) _ _ with fault | _ | ⟨member, reader⟩ <;> rfl

/-- What is extracted is the data that the stream holds of the member, unless this is too
much or the stream fails before it is all there. -/
theorem extract_of_seekIn (decoders : Zip.Decoders)
    (isTar : ArchiveFormat.sniff payload = .gzipTar) (limit : UInt64)
    {member : Tar.Member} {reader : Tar.Reader}
    (found : Tar.seekIn (Bytes.ofString entry) (Gzip.content payload) =
      .ok (some (member, reader)))
    (isAt : member.At (Gzip.content payload) reader) :
    let held := (Gzip.content payload).bytes.drop reader.offset
    extract decoders entry payload limit =
      if limit.toNat < min member.size held.length then .error (.entryTooLarge entry limit)
      else if (Gzip.content payload).ends = true ∨ member.size ≤ held.length then
        .ok (held.take member.size)
      else .error (.corrupt .gzipTar) := by
  intro held
  have length : (held.take member.size).length = min member.size held.length :=
    List.length_take
  -- The end of the data was counted in 64 bits, so the greatest limit does not stop it.
  have short : (held.take member.size).length < greatestLimit.toNat := by
    have counted := isAt.size_le
    rw [length, toNat_greatestLimit]
    simp only [Tar.blockSize] at counted
    omega
  rw [extract_eq_of_seekIn isTar, found]
  dsimp only
  rw [isAt.isIn, Stream.readBounded_of_length_lt (by exact short)]
  simp only [Stream.limit, Bool.or_eq_true, decide_eq_true_eq]
  rw [length]
  split
  · rfl
  · split <;> rfl

/-- From a tar archive at most as many bytes are extracted as are recorded.  They are as
many if the stream does not end inside of the data of the file that is found.  Otherwise
they are fewer, and extraction succeeds all the same. -/
theorem extract_of_gzipTar (decoders : Zip.Decoders)
    (isTar : ArchiveFormat.sniff payload = .gzipTar) (entry : String) (limit : UInt64) :
    let stream := Gzip.content payload
    let found := Tar.seekIn (Bytes.ofString entry) stream
    (∀ bytes, extract decoders entry payload limit = .ok bytes →
      ∃ member reader, found = .ok (some (member, reader))) ∧
    ∀ member reader, found = .ok (some (member, reader)) →
      Tar.Records stream reader.offset member.size ∧
        let held := stream.bytes.drop reader.offset
        (∀ bytes, extract decoders entry payload limit = .ok bytes →
          (bytes.length = member.size ↔ member.size ≤ held.length)) ∧
        extract decoders entry payload limit =
          if limit.toNat < min member.size held.length then .error (.entryTooLarge entry limit)
          else if stream.ends = true ∨ member.size ≤ held.length then
            .ok (held.take member.size)
          else .error (.corrupt .gzipTar) := by
  intro stream found
  constructor
  · intro bytes extracted
    rw [extract_eq_of_seekIn isTar] at extracted
    rcases isFound : Tar.seekIn (Bytes.ofString entry) (Gzip.content payload) with
      fault | _ | ⟨member, reader⟩
    · simp [isFound] at extracted
    · simp [isFound] at extracted
    · exact ⟨member, reader, isFound⟩
  · intro member reader isFound
    obtain ⟨isAt, isFile, -⟩ := Tar.at_of_seek (Tar.Reader.isIn_ofStream stream) isFound
    have outcome := extract_of_seekIn decoders isTar limit isFound isAt
    refine ⟨isAt.records isFile, fun bytes extracted => ?_, outcome⟩
    rw [outcome] at extracted
    split at extracted
    · simp at extracted
    split at extracted
    · obtain rfl := Except.ok.inj extracted
      rw [List.length_take]
      exact min_eq_left_iff
    · simp at extracted

section Cut

/-- An archive that ends inside of the data of its first file, in a gzip member that is
complete. -/
def Tar.cutFile (source : Tar.Source) (kept : Nat) (data : Bytes) : Bytes :=
  Gzip.file Tar.noHeading data (source.header ++ source.substance.content.take kept) []

variable {source : Tar.Source} {kept : Nat} {data : Bytes}

theorem content_cutFile
    (encoded : Deflate.Encodes data (source.header ++ source.substance.content.take kept)) :
    Gzip.content (Tar.cutFile source kept data) =
      .ofBytes (source.header ++ source.substance.content.take kept) :=
  Gzip.content_file Tar.noHeading encoded []

/-- A search that meets the header of a file with the name ends there. -/
theorem seekIn_of_matches {name : Bytes} (matching : source.Matches name = true) (rest : Bytes)
    (ends : Bool) :
    Tar.seekIn name ⟨source.header ++ rest, ends⟩ =
      .ok (some (source.member, source.entered rest ends 0)) := by
  have faces : (Tar.Reader.ofStream ⟨source.header ++ rest, ends⟩).Faces []
      (source.header ++ rest) ends := ⟨rfl, rfl⟩
  have fits : 0 + source.layout.length < UInt64.size := by
    have small : source.substance.content.length < 0x200000000 := source.content_length
    rw [source.length_layout, source.length_data]
    simp only [Tar.blockSize, UInt64.size]
    omega
  have isMember := Tar.readMember_of_faces source (source.header ++ rest).length faces
  rw [if_pos (by exact fits)] at isMember
  exact (bind_eq_of_ok isMember).trans (if_pos matching)

theorem findIn_cut {name : Bytes} (matching : source.Matches name = true) (kept : Nat) :
    Tar.findIn name (.ofBytes (source.header ++ source.substance.content.take kept)) =
      .ok (some (source.member, .ofBytes (source.substance.content.take kept))) := by
  have found := seekIn_of_matches matching (source.substance.content.take kept) true
  have whole : (source.substance.content.take kept).take source.substance.content.length =
      source.substance.content.take kept :=
    List.take_of_length_le (List.length_take_le' _ _)
  rw [Tar.seekIn] at found
  rw [Tar.findIn, Tar.find_eq_seek, Stream.ofBytes, found]
  simp [Except.map, Stream.limit, Stream.ofBytes, Tar.Source.member, Tar.Source.entered,
    Tar.Reader.standing, whole]

/-- What is left of a file that was cut off is extracted as if it was all of it. -/
theorem extract_cutFile
    (encoded : Deflate.Encodes data (source.header ++ source.substance.content.take kept))
    (matching : source.Matches (Bytes.ofString entry) = true) {limit : UInt64}
    (within : (source.substance.content.take kept).length ≤ limit.toNat) :
    extract decoders entry (Tar.cutFile source kept data) limit =
      .ok (source.substance.content.take kept) := by
  have short : (source.substance.content.take kept).length < UInt64.size :=
    Nat.lt_of_le_of_lt within limit.toNat_lt_size
  rw [extract, Tar.cutFile, Gzip.sniff_file]
  dsimp only
  rw [extractTar, Gzip.content_file Tar.noHeading encoded, findIn_cut matching]
  dsimp only
  rw [Stream.readBounded_ofBytes short, if_pos within, Bounded.toResult]

theorem seekIn_cut {name : Bytes} (matching : source.Matches name = true) (kept : Nat) :
    ∃ reader, Tar.seekIn name (.ofBytes (source.header ++ source.substance.content.take kept)) =
      .ok (some (source.member, reader)) :=
  ⟨_, seekIn_of_matches matching _ true⟩

end Cut

section Example

/-- The sample file, after whose first byte the archive ends. -/
def cutSample : Bytes :=
  Tar.cutFile Tar.sampleFile 1 (Deflate.storedBlock (Tar.sampleFile.header ++ [0x01]))

theorem encodes_cutSample :
    Deflate.Encodes (Deflate.storedBlock (Tar.sampleFile.header ++ [0x01]))
      (Tar.sampleFile.header ++ Tar.sampleFile.substance.content.take 1) := by
  apply Deflate.encodes_storedBlock
  rw [List.length_append, Tar.Source.length_header]
  decide

theorem matches_sampleFile : Tar.sampleFile.Matches (Bytes.ofString "a") = true := by
  have name : Bytes.ofString "a" = [0x61] := Bytes.ofString_ofList ['a']
  rw [name]
  rfl

theorem extract_cutSample (decoders : Zip.Decoders) :
    extract decoders "a" cutSample 100 = .ok [0x01] :=
  extract_cutFile encodes_cutSample matches_sampleFile (by decide)

theorem extract_of_gzipTar_cutSample :
    ∃ reader, Tar.seekIn (Bytes.ofString "a") (Gzip.content cutSample) =
        .ok (some (Tar.sampleFile.member, reader)) ∧
      Tar.Records (Gzip.content cutSample) reader.offset 3 := by
  obtain ⟨reader, found⟩ := seekIn_cut matches_sampleFile 1
  rw [← content_cutFile encodes_cutSample] at found
  have isTar : ArchiveFormat.sniff cutSample = .gzipTar := rfl
  exact ⟨reader, found, ((extract_of_gzipTar .none isTar "a" 100).2 _ reader found).1⟩

/-- Not all that is extracted from a tar archive is as long as was recorded. -/
theorem not_whole_of_every_extraction :
    ¬∃ decoders : Zip.Decoders, ∀ (entry : String) (payload : Bytes) (limit : UInt64)
        (bytes : Bytes), ArchiveFormat.sniff payload = .gzipTar →
      extract decoders entry payload limit = .ok bytes →
        ∀ member reader,
          Tar.seekIn (Bytes.ofString entry) (Gzip.content payload) = .ok (some (member, reader)) →
            bytes.length = member.size := by
  rintro ⟨decoders, whole⟩
  obtain ⟨reader, found⟩ := seekIn_cut matches_sampleFile 1
  rw [← content_cutFile encodes_cutSample] at found
  have same : 1 = 3 :=
    whole "a" cutSample 100 [0x01] rfl (extract_cutSample decoders) _ reader found
  exact absurd same (by decide)

end Example

end SelfUpdate
