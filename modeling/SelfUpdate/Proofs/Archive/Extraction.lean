import SelfUpdate.Archive.Extract

/-!
# What extraction can deliver

A read with a limit never delivers more bytes than the limit, and extraction
delivers only what such a read did.
-/

namespace SelfUpdate

theorem Stream.of_readBounded {stream : Stream} {limit : UInt64} {bytes : Bytes}
    (complete : stream.readBounded limit = .complete bytes) :
    bytes <+: stream.bytes ∧ bytes.length ≤ limit.toNat := by
  unfold readBounded at complete
  simp only at complete
  split at complete
  · simp at complete
  split at complete
  · simp at complete
  next within =>
    obtain rfl := Bounded.complete.inj complete
    exact ⟨List.take_prefix _ _, Nat.le_of_not_lt within⟩

theorem Stream.length_le_of_readBounded {stream : Stream} {limit : UInt64} {bytes : Bytes}
    (complete : stream.readBounded limit = .complete bytes) : bytes.length ≤ limit.toNat :=
  (of_readBounded complete).2

theorem Bounded.toResult_eq_ok {entry : String} {format : ArchiveFormat} {limit : UInt64}
    {bounded : Bounded} {bytes : Bytes} :
    bounded.toResult entry format limit = .ok bytes ↔ bounded = .complete bytes := by
  cases bounded <;> simp [toResult]

section Success

variable {decoders : Zip.Decoders} {entry : String} {archive bytes : Bytes} {limit : UInt64}

/-- What has been found and checked when a zip archive delivers an entry. -/
theorem of_extractZip (extracted : extractZip decoders entry archive limit = .ok bytes) :
    ∃ list item content, Zip.entries archive = some list ∧ Zip.lookUp entry list = some item ∧
      item.content decoders archive = some content ∧ item.isFile = true ∧ item.size ≤ limit.toNat ∧
      content.readBounded limit = .complete bytes := by
  unfold extractZip at extracted
  split at extracted
  · simp at extracted
  next list isList =>
    split at extracted
    · simp at extracted
    next item isItem =>
      split at extracted
      · simp at extracted
      next content isContent =>
        split at extracted
        · simp at extracted
        next isFile =>
          split at extracted
          · simp at extracted
          next within =>
            exact ⟨list, item, content, isList, isItem, isContent, by simpa using isFile,
              Nat.not_lt.mp within, Bounded.toResult_eq_ok.mp extracted⟩

theorem of_extractTar (extracted : extractTar entry archive limit = .ok bytes) :
    ∃ member content, Tar.findIn (Bytes.ofString entry) (Gzip.content archive) =
        .ok (some (member, content)) ∧ content.readBounded limit = .complete bytes := by
  unfold extractTar at extracted
  split at extracted
  · simp at extracted
  · simp at extracted
  next member content found =>
    exact ⟨member, content, found, Bounded.toResult_eq_ok.mp extracted⟩

theorem of_extract (extracted : extract decoders entry archive limit = .ok bytes) :
    (ArchiveFormat.sniff archive = .zip ∧ extractZip decoders entry archive limit = .ok bytes) ∨
      (ArchiveFormat.sniff archive = .gzipTar ∧ extractTar entry archive limit = .ok bytes) := by
  unfold extract at extracted
  cases format : ArchiveFormat.sniff archive with
  | zip => exact Or.inl ⟨rfl, by simpa only [format] using extracted⟩
  | gzipTar => exact Or.inr ⟨rfl, by simpa only [format] using extracted⟩
  | unknown => simp [format] at extracted

/-- Extraction never delivers more than its limit. -/
theorem length_le_of_extract (extracted : extract decoders entry archive limit = .ok bytes) :
    bytes.length ≤ limit.toNat := by
  rcases of_extract extracted with ⟨-, fromZip⟩ | ⟨-, fromTar⟩
  · obtain ⟨_, _, _, _, _, _, _, _, complete⟩ := of_extractZip fromZip
    exact Stream.length_le_of_readBounded complete
  · obtain ⟨_, _, _, complete⟩ := of_extractTar fromTar
    exact Stream.length_le_of_readBounded complete

end Success

end SelfUpdate
