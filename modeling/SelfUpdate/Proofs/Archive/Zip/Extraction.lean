import SelfUpdate.Proofs.Archive.Deflate.Stored
import SelfUpdate.Proofs.Archive.Limit
import SelfUpdate.Proofs.Archive.Zip.Reading

/-!
# Extracting from a zip archive what was put into it

Of all entries with the name that is asked for, the last one counts, and it counts only if
it is a file.  Its content is given back as it was, if it is within the limit.
-/

namespace SelfUpdate.Zip

theorem and_linkType (mode : Nat) : mode &&& linkType = ((mode >>> 12) &&& 10) <<< 12 := by
  have shifted : linkType = 10 <<< 12 := by decide
  rw [shifted]
  apply Nat.eq_of_testBit_eq
  intro place
  simp only [Nat.testBit_and, Nat.testBit_shiftLeft, Nat.testBit_shiftRight]
  by_cases high : 12 ≤ place
  · rw [Nat.add_sub_cancel' high]
    simp [high]
  · simp [high]

/-- Of the types that files can have, only that of symbolic links has all the bits that make
an entry count as a link, whatever the permissions are. -/
theorem marksLink_iff {type permissions low : Nat} (isType : type ∈ fileTypes)
    (permissions_lt : permissions < 0o10000) (low_lt : low < 0x10000) :
    marksLink ((type + permissions) * 0x10000 + low) = true ↔ type = linkType := by
  have mode : ((type + permissions) * 0x10000 + low) >>> 16 = type + permissions := by
    rw [Nat.shiftRight_eq_div_pow]
    omega
  have bits : (type + permissions) >>> 12 = type >>> 12 := by
    have whole : ∀ type ∈ fileTypes, type % 0o10000 = 0 := by decide
    have low := whole type isType
    rw [Nat.shiftRight_eq_div_pow, Nat.shiftRight_eq_div_pow]
    omega
  have each : ∀ type ∈ fileTypes,
      ((type >>> 12) &&& 10) <<< 12 = linkType ↔ type = linkType := by decide
  rw [marksLink, mode, beq_iff_eq, and_linkType, bits]
  exact each type isType

theorem sniff_archive (sources : List Source) :
    ArchiveFormat.sniff (archive sources) = .zip := by
  cases sources <;> rfl

theorem isFile_entry (source : Source) (place : Nat) :
    (source.entry place).isFile = source.isFile := by
  rw [Entry.isFile, Source.isFile, Source.entry, Source.name, String.toList_ofList]
  rfl

theorem lookUp_readBack (entry : String) (sources : List (Source × Nat)) :
    lookUp entry (readBack sources) =
      (sources.reverse.find? (·.1.name == entry)).map fun (source, place) =>
        source.entry place := by
  rw [lookUp, readBack, ← List.map_reverse, List.find?_map]
  rfl

theorem find?_placed (entry : String) (sources : List Source) (offset : Nat) :
    sources.reverse.find? (·.name == entry) =
      ((placed offset sources).reverse.find? (·.1.name == entry)).map Prod.fst := by
  rw [← map_fst_placed offset sources, ← List.map_reverse, List.find?_map, map_fst_placed]
  rfl

/-- Extraction from an archive gives the content of the last entry with the name, if it is a
file and within the limit. -/
theorem extract_entries (decoders : Decoders) (sources : List Source)
    (few : sources.length < 0xffff) (small : (archive sources).length < 0x100000000)
    (entry : String) (limit : UInt64) :
    extract decoders entry (archive sources) limit =
      match sources.reverse.find? (·.name == entry) with
      | none => .error (.entryNotFound entry)
      | some source =>
          if source.isFile = false then .error (.entryNotFound entry)
          else if source.content.length ≤ limit.toNat then .ok source.content
          else .error (.entryTooLarge entry limit) := by
  rw [extract, sniff_archive]
  dsimp only
  rw [extractZip, entries_archive sources few small]
  dsimp only
  rw [lookUp_readBack, find?_placed entry sources 0]
  cases last : (placed 0 sources).reverse.find? (·.1.name == entry) with
  | none => rfl
  | some found =>
      obtain ⟨source, place⟩ := found
      have member : (source, place) ∈ placed 0 sources :=
        List.mem_reverse.mp (List.mem_of_find?_eq_some last)
      have atStart : (archive sources).drop 0 =
          locals sources ++ (directory sources ++ endRecord sources) := rfl
      obtain ⟨behind, isThere⟩ := drop_of_mem_placed atStart member
      have short : source.content.length < UInt64.size :=
        Nat.lt_of_lt_of_le source.content_length (by decide)
      have size : (source.entry place).size = source.content.length := rfl
      dsimp only [Option.map_some]
      rw [content_of_drop source decoders isThere, isFile_entry, size]
      dsimp only
      rw [Stream.readBounded_ofBytes short]
      cases source.isFile with
      | false => rfl
      | true =>
          by_cases within : source.content.length ≤ limit.toNat
          · simp [within, Nat.not_lt.mpr within, Bounded.toResult]
          · simp [within, Nat.not_le.mp within]

section Example

def noDetails : Details where
  system := 3
  flags := 0
  attributes := 0
  versionMade := 20
  versionNeeded := 20
  time := 0
  disk := 0
  internal := 0
  extra := []
  comment := []
  system_lt := by decide
  flags_lt := by decide
  attributes_lt := by decide
  notEncrypted := rfl
  extra_length := by decide
  comment_length := by decide

/-- Two entries with one name, the content of the last being the signature of an end
record. -/
def sampleEntries : List Source :=
  [{ letters := ['a']
     content := [0x01]
     packing := .deflated (Deflate.storedBlock [0x01]) (Deflate.encodes_storedBlock (by decide))
     details := noDetails
     isAscii := by simp [Text.IsAscii]
     letters_length := by decide
     content_length := by decide },
   { letters := ['a']
     content := endSignature
     packing := .stored
     details := noDetails
     isAscii := by simp [Text.IsAscii]
     letters_length := by decide
     content_length := by decide }]

theorem extract_sampleEntries :
    sampleEntries.length < 0xffff ∧ (archive sampleEntries).length < 0x100000000 ∧
      extract .none "a" (archive sampleEntries) 4 = .ok endSignature := by
  have small : (archive sampleEntries).length < 0x100000000 := by
    have length : (archive sampleEntries).length = 188 := rfl
    rw [length]
    decide
  refine ⟨by decide, small, ?_⟩
  rw [extract_entries .none sampleEntries (by decide) small "a" 4]
  have found : sampleEntries.reverse.find? (·.name == "a") = sampleEntries[1]? := by
    simp [sampleEntries, Source.name]
  rw [found]
  rfl

end Example

end SelfUpdate.Zip
