import SelfUpdate.Proofs.Archive.Limit
import SelfUpdate.Proofs.Archive.Zip.Layout

/-!
# What a zip archive delivers has passed its checksum

The checksum of an entry is compared when a read meets the end of its content.  A read that
may take one byte more than the limit allows meets it whenever the content is within the
limit, also when it is just as long.  So whatever sizes a directory declares, the bytes that
are delivered are a whole content, with the checksum that the directory records for the last
entry of the name.
-/

namespace SelfUpdate

/-- What a read completes is a whole stream that ends there.  Only at the greatest limit could
a read stop by itself, after more bytes than a byte string in memory has. -/
theorem Stream.eq_ofBytes_of_readBounded {stream : Stream} {limit : UInt64} {bytes : Bytes}
    (complete : stream.readBounded limit = .complete bytes)
    (stopsEarlier : limit = greatestLimit → bytes.length < greatestLimit.toNat) :
    stream = .ofBytes bytes := by
  obtain ⟨content, ends⟩ := stream
  rcases Nat.lt_or_eq_of_le (toNat_le_greatestLimit limit) with less | same
  · rw [readBounded_of_lt less] at complete
    split at complete
    · simp at complete
    split at complete
    · next isWhole =>
        obtain rfl := Bounded.complete.inj complete
        obtain rfl : ends = true := isWhole
        rfl
    · simp at complete
  · obtain rfl := UInt64.toNat_inj.mp same
    have short := stopsEarlier rfl
    rw [readBounded_greatestLimit] at complete
    split at complete
    · next reached =>
        obtain rfl := Bounded.complete.inj complete
        -- A part that is shorter than what was asked for is the whole.
        have within : content.length < greatestLimit.toNat :=
          Nat.lt_of_not_le fun long => by simp [Nat.min_eq_left long] at short
        obtain rfl : ends = true := reached.resolve_right (Nat.not_le.mpr within)
        rw [List.take_of_length_le (Nat.le_of_lt within), ofBytes]
    · simp at complete

namespace Zip

variable {decoders : Decoders} {archive bytes : Bytes} {entry : Entry} {list : List Entry}
  {name : String}

/-- A stream that is verified can be read to its end only if it has the checksum. -/
theorem checksum_of_verified {stream : Stream} (ended : entry.verified stream = .ofBytes bytes) :
    (Checksum.crc32 bytes).toNat = entry.checksum := by
  obtain ⟨rfl, checked⟩ := Stream.mk.inj ended
  exact beq_iff_eq.mp (Bool.and_eq_true_iff.mp checked).2

/-- A content is delivered to its end only if it has the checksum of the entry. -/
theorem checksum_of_content (found : entry.content decoders archive = some (.ofBytes bytes)) :
    (Checksum.crc32 bytes).toNat = entry.checksum := by
  unfold Entry.content at found
  split at found
  · simp at found
  · obtain ⟨offset, -, found⟩ := Option.bind_eq_some_iff.mp found
    obtain ⟨stream, -, found⟩ := Option.bind_eq_some_iff.mp found
    exact checksum_of_verified (Option.some.inj found)

/-- An entry is the last one with a name. -/
def IsLast (name : String) (entry : Entry) (list : List Entry) : Prop :=
  entry.name = name ∧ ∃ before after, list = before ++ entry :: after ∧
    ∀ later ∈ after, later.name ≠ name

theorem lookUp_eq_some_iff : lookUp name list = some entry ↔ IsLast name entry list := by
  rw [lookUp, List.find?_eq_some_iff_append, IsLast, beq_iff_eq]
  refine and_congr_right fun _ => ⟨?_, ?_⟩
  · rintro ⟨back, front, reversed, others⟩
    refine ⟨front.reverse, back.reverse, ?_, fun later member => ?_⟩
    · rw [← List.reverse_reverse list, reversed]
      simp
    · simpa using others later (List.mem_reverse.mp member)
  · rintro ⟨before, after, rfl, others⟩
    refine ⟨after.reverse, before.reverse, by simp, fun later member => ?_⟩
    simpa using others later (List.mem_reverse.mp member)

/-- Whatever a zip archive delivers has the checksum that the directory records for the last
entry with the name, and is the whole content of that entry.  At the greatest limit this is so
for every byte string that a memory can hold. -/
theorem checksum_of_extract (decoders : Decoders) {entry : String} {archive bytes : Bytes}
    {limit : UInt64} (isZip : ArchiveFormat.sniff archive = .zip)
    (extracted : extract decoders entry archive limit = .ok bytes)
    (stopsEarlier : limit = greatestLimit → bytes.length < greatestLimit.toNat) :
    ∃ list item offset, entries archive = some list ∧ IsLast entry item list ∧
      item.RecordedAt archive offset ∧ item.content decoders archive = some (.ofBytes bytes) ∧
      archive.number? (offset + 16) 4 = some (Checksum.crc32 bytes).toNat := by
  rcases of_extract extracted with ⟨-, fromZip⟩ | ⟨isTar, -⟩
  · obtain ⟨list, item, content, isList, isItem, isContent, -, -, complete⟩ :=
      of_extractZip fromZip
    obtain rfl := Stream.eq_ofBytes_of_readBounded complete stopsEarlier
    have last := lookUp_eq_some_iff.mp isItem
    have member : item ∈ list := List.mem_reverse.mp (List.mem_of_find?_eq_some isItem)
    obtain ⟨offset, recorded⟩ := recordedAt_of_mem_entries isList member
    refine ⟨list, item, offset, isList, last, recorded, isContent, ?_⟩
    rw [recorded.checksum, checksum_of_content isContent]
  · rw [isZip] at isTar
    cases isTar

/-- A decoder for frames of the method 93 that keep fewer than 256 bytes as they are. -/
def keptFrames : Decoders := fun entry data =>
  let size := data.getD 5 0
  let front : Bytes := [0x28, 0xb5, 0x2f, 0xfd, 0x20, size] ++ Bytes.ofNumber 3 (8 * size.toNat + 1)
  if entry.method = 93 ∧ data.take 9 = front ∧ data.length = 9 + size.toNat then
    some (.ofBytes (data.drop 9))
  else .none

/-- An archive of one entry of two bytes, which are kept in a frame, and for which the
directory declares no bytes at all. -/
def understatedArchive : Bytes :=
  let checksum := (Checksum.crc32 [1, 2]).toNat
  record localSignature
      [(2, 20), (2, 0), (2, 93), (4, 0), (4, checksum), (4, 11), (4, 0), (2, 1), (2, 0)] ++
    [0x61, 0x28, 0xb5, 0x2f, 0xfd, 0x20, 2, 0x11, 0, 0, 1, 2] ++
    (record directorySignature
        [(2, 20), (2, 20), (2, 0), (2, 93), (4, 0), (4, checksum), (4, 11), (4, 0), (2, 1), (2, 0),
          (2, 0), (2, 0), (2, 0), (4, 0), (4, 0)] ++ [0x61]) ++
    record endSignature [(2, 0), (2, 0), (2, 1), (2, 1), (4, 47), (4, 42), (2, 0)]

theorem checksum_of_understatedArchive :
    ArchiveFormat.sniff understatedArchive = .zip ∧
      extract keptFrames "a" understatedArchive 2 = .ok [1, 2] ∧
      extract keptFrames "a" understatedArchive greatestLimit = .ok [1, 2] ∧
      ∃ list item offset, entries understatedArchive = some list ∧ IsLast "a" item list ∧
        item.RecordedAt understatedArchive offset ∧
        item.content keptFrames understatedArchive = some (.ofBytes [1, 2]) ∧
        understatedArchive.number? (offset + 16) 4 = some (Checksum.crc32 [1, 2]).toNat := by
  have isZip : ArchiveFormat.sniff understatedArchive = .zip := by decide +kernel
  have extracted : extract keptFrames "a" understatedArchive 2 = .ok [1, 2] := by
    decide +kernel
  have unlimited : extract keptFrames "a" understatedArchive greatestLimit = .ok [1, 2] := by
    decide +kernel
  exact ⟨isZip, extracted, unlimited,
    checksum_of_extract keptFrames isZip unlimited fun _ => by decide⟩

end Zip

end SelfUpdate
