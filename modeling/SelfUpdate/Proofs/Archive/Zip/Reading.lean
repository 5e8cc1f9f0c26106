import SelfUpdate.Proofs.Archive.Zip.Layout

/-!
# Reading a zip archive that was written

The end record is found from the back, at the only place where a whole one fits, so nothing
in front of it is ever taken for it.  It leads to the directory, and each directory header to
the local header and the data of its entry.  So whatever the contents of the entries look
like, the entries are read as they were written.
-/

namespace SelfUpdate.Zip

variable {file back : Bytes} {offset : Nat}

section Records

variable {record signature : Bytes} {size number : Nat}

theorem recordAt_of_drop (found : file.drop offset = record ++ back)
    (whole : record.length = size) (signed : signature.isPrefixOf record = true) :
    recordAt file signature offset size = some record := by
  rw [recordAt, Bytes.slice?_of_drop found whole, Option.bind_eq_bind, Option.bind_some,
    if_pos signed]

theorem fieldOf_of_take {place : Nat}
    (found : (record.drop place).take size = Bytes.ofNumber size number)
    (fits : number < 256 ^ size) : fieldOf record place size = number := by
  rw [fieldOf, found, Bytes.littleEndian_ofNumber fits]

end Records

section Headers

variable (source : Source)

theorem method_lt : source.packing.method < 256 ^ 2 := by
  cases source.packing with
  | stored => exact Nat.zero_lt_succ _
  | deflated data encodes => exact show 8 < 256 ^ 2 by decide

theorem localHeader_at (found : file.drop offset = source.layout ++ back) :
    LocalHeader.at? file offset =
      some ⟨source.letters.length, source.details.extra.length⟩ := by
  have record : recordAt file localSignature offset 30 = some source.localRecord :=
    recordAt_of_drop (by rw [found, Source.layout, List.append_assoc]) rfl rfl
  have name : fieldOf source.localRecord 26 2 = source.letters.length :=
    fieldOf_of_take rfl source.letters_length
  have extra : fieldOf source.localRecord 28 2 = source.details.extra.length :=
    fieldOf_of_take rfl source.details.extra_length
  simp [LocalHeader.at?, record, name, extra]

theorem directoryHeader_at {place : Nat} (fits : place < 256 ^ 4)
    (dataFits : source.packing.data.length < 256 ^ 4)
    (found : file.drop offset = source.directoryHeader place ++ back) :
    DirectoryHeader.at? file offset = some {
      madeBy := source.details.system
      flags := source.details.flags
      method := source.packing.method
      checksum := source.checksum
      compressedSize := source.packing.data.length
      size := source.content.length
      nameLength := source.letters.length
      extraLength := 0
      commentLength := source.details.comment.length
      attributes := source.details.attributes
      localOffset := place } := by
  let record := source.directoryRecord place
  have isRecord : recordAt file directorySignature offset 46 = some record :=
    recordAt_of_drop (by rw [found, Source.directoryHeader, List.append_assoc]) rfl rfl
  have system : fieldOf record 5 1 = source.details.system :=
    fieldOf_of_take rfl source.details.system_lt
  have flags : fieldOf record 8 2 = source.details.flags :=
    fieldOf_of_take rfl source.details.flags_lt
  have method : fieldOf record 10 2 = source.packing.method :=
    fieldOf_of_take rfl (method_lt source)
  have checksum : fieldOf record 16 4 = source.checksum :=
    fieldOf_of_take rfl (Checksum.crc32 source.content).toNat_lt
  have compressedSize : fieldOf record 20 4 = source.packing.data.length :=
    fieldOf_of_take rfl dataFits
  have size : fieldOf record 24 4 = source.content.length :=
    fieldOf_of_take rfl source.content_length
  have nameLength : fieldOf record 28 2 = source.letters.length :=
    fieldOf_of_take rfl source.letters_length
  have extraLength : fieldOf record 30 2 = 0 := rfl
  have commentLength : fieldOf record 32 2 = source.details.comment.length :=
    fieldOf_of_take rfl source.details.comment_length
  have attributes : fieldOf record 38 4 = source.details.attributes :=
    fieldOf_of_take rfl source.details.attributes_lt
  have localOffset : fieldOf record 42 4 = place := fieldOf_of_take rfl fits
  simp only [DirectoryHeader.at?, isRecord, Option.bind_eq_bind, Option.bind_some, Option.pure_def,
    system, flags, method, checksum, compressedSize, size, nameLength, extraLength,
    commentLength, attributes, localOffset]

theorem rawName_length : source.rawName.length = source.letters.length :=
  List.length_map _

theorem decodeText_rawName (isUtf8 : Bool) : decodeText isUtf8 source.rawName = source.name := by
  cases isUtf8 with
  | true => exact Text.decodeLossy_of_isAscii source.isAscii
  | false => exact Text.decodeCodePage_of_isAscii source.isAscii

/-- The entry that is read where one was written. -/
def Source.entry (source : Source) (place : Nat) : Entry where
  name := source.name
  rawName := source.rawName
  comment := decodeText (source.details.flags.testBit 11) source.details.comment
  flags := source.details.flags
  method := source.packing.method
  sealed := false
  checksum := source.checksum
  compressedSize := source.packing.data.length
  size := source.content.length
  unix := source.details.system == 3
  attributes := source.details.attributes
  localOffset := place

theorem length_directoryHeader (place : Nat) :
    (source.directoryHeader place).length =
      46 + source.letters.length + source.details.comment.length := by
  have record : (source.directoryRecord place).length = 46 := rfl
  rw [Source.directoryHeader, List.length_append, List.length_append, record, rawName_length]
  omega

theorem entry_at {place : Nat} (fits : place < 256 ^ 4)
    (dataFits : source.packing.data.length < 256 ^ 4)
    (found : file.drop offset = source.directoryHeader place ++ back) :
    Entry.at? file 0 offset =
      some (source.entry place, offset + (source.directoryHeader place).length) := by
  have atRecord : file.drop offset =
      source.directoryRecord place ++ (source.rawName ++ (source.details.comment ++ back)) := by
    rw [found, Source.directoryHeader, List.append_assoc, List.append_assoc]
  have atName : file.drop (offset + 46) = source.rawName ++ (source.details.comment ++ back) :=
    Bytes.drop_add_of_drop atRecord rfl
  have atComment : file.drop (offset + 46 + source.letters.length) =
      source.details.comment ++ back :=
    Bytes.drop_add_of_drop atName (rawName_length source)
  have name := Bytes.slice?_of_drop atName (rawName_length source)
  have extra : file.slice? (offset + 46 + source.letters.length) 0 = some [] := rfl
  have comment := Bytes.slice?_of_drop atComment rfl
  have method : source.packing.method ≠ sealedMethod := by
    cases source.packing <;> simp [Packing.method, sealedMethod]
  have small : ¬UInt64.size ≤ place :=
    Nat.not_le.mpr (Nat.lt_of_lt_of_le fits (by decide))
  have noFields (entry : Entry) : entry.takeFields ([] : Bytes).length.succ [] = some entry := rfl
  simp only [Entry.at?, directoryHeader_at source fits dataFits found, name, extra, comment,
    Option.bind_eq_bind, Option.bind_some, decodeText_rawName, noFields, method, small,
    decide_false, Bool.false_and, Bool.false_eq_true, if_false, Nat.add_zero]
  rw [length_directoryHeader, Nat.add_assoc, Nat.add_assoc,
    Nat.add_assoc]
  rfl

theorem decoded_entry (decoders : Decoders) (place : Nat) :
    (source.entry place).decoded decoders source.packing.data =
      some (.ofBytes source.content) := by
  have method : (source.entry place).method = source.packing.method := rfl
  rw [Entry.decoded, method]
  cases packing : source.packing with
  | stored => rfl
  | deflated packed encodes =>
      rw [Deflate.Encodes] at encodes
      simp [Packing.method, Packing.data, encodes]

theorem verified_entry (place : Nat) :
    (source.entry place).verified (.ofBytes source.content) = .ofBytes source.content := by
  have checked : ((Checksum.crc32 source.content).toNat == (source.entry place).checksum) = true :=
    beq_self_eq_true _
  simp [Entry.verified, Stream.ofBytes, checked]

/-- The data of an entry gives its content, which passes the check. -/
theorem content_of_drop (decoders : Decoders) {place : Nat}
    (found : file.drop place = source.layout ++ back) :
    (source.entry place).content decoders file = some (.ofBytes source.content) := by
  have atRecord : file.drop place = source.localRecord ++
      (source.rawName ++ (source.details.extra ++ (source.packing.data ++ back))) := by
    rw [found, Source.layout]
    simp only [List.append_assoc]
  have recordSize : source.localRecord.length = 30 := rfl
  have atName := Bytes.drop_add_of_drop atRecord recordSize
  have atExtra := Bytes.drop_add_of_drop atName (rawName_length source)
  have atData := Bytes.drop_add_of_drop atExtra rfl
  have offset : (source.entry place).dataOffset file =
      some (place + 30 + source.letters.length + source.details.extra.length) := by
    rw [Entry.dataOffset, Source.entry, localHeader_at source found]
    rfl
  have data : (file.drop (place + 30 + source.letters.length +
      source.details.extra.length)).take (source.entry place).compressedSize =
        source.packing.data := by
    rw [atData]
    exact List.take_left
  have isOpen : ((source.entry place).flags.testBit 0 || (source.entry place).sealed) = false :=
    (Bool.or_false _).trans source.details.notEncrypted
  rw [Entry.content, isOpen, offset]
  simp only [Option.bind_eq_bind, Option.bind_some, data, Bool.false_eq_true, if_false,
    decoded_entry, Option.pure_def, verified_entry]

end Headers

section Placed

theorem length_placed (offset : Nat) (sources : List Source) :
    (placed offset sources).length = sources.length := by
  induction sources generalizing offset with
  | nil => rfl
  | cons source sources ih => simp [placed, ih]

theorem map_fst_placed (offset : Nat) (sources : List Source) :
    (placed offset sources).map Prod.fst = sources := by
  induction sources generalizing offset with
  | nil => rfl
  | cons source sources ih => simp [placed, ih]

/-- At the offset that the directory gives for an entry lie its local header and data. -/
theorem drop_of_mem_placed {sources : List Source} {source : Source} {place : Nat}
    (found : file.drop offset = locals sources ++ back)
    (member : (source, place) ∈ placed offset sources) :
    ∃ behind, file.drop place = source.layout ++ behind := by
  induction sources generalizing offset with
  | nil => simp [placed] at member
  | cons first sources ih =>
      rw [locals, List.flatMap_cons, List.append_assoc] at found
      rcases List.mem_cons.mp member with same | later
      · obtain ⟨rfl, rfl⟩ := Prod.mk.inj same
        exact ⟨_, found⟩
      · exact ih (Bytes.drop_add_of_drop found rfl) later

end Placed

/-- The entries that are read from a directory. -/
def readBack (sources : List (Source × Nat)) : List Entry :=
  sources.map fun (source, place) => source.entry place

theorem readEntries_of_drop {place : DirectoryPlace} (unshifted : place.shift = 0)
    {sources : List (Source × Nat)}
    (fits : ∀ source ∈ sources, source.2 < 256 ^ 4 ∧ source.1.packing.data.length < 256 ^ 4)
    (found : file.drop offset =
      (sources.flatMap fun (source, place) => source.directoryHeader place) ++ back) :
    readEntries file place sources.length offset = some (readBack sources) := by
  induction sources generalizing offset with
  | nil => rfl
  | cons source sources ih =>
      obtain ⟨source, start⟩ := source
      obtain ⟨startFits, dataFits⟩ := fits (source, start) List.mem_cons_self
      rw [List.flatMap_cons, List.append_assoc] at found
      have next := ih (fun other member => fits other (List.mem_cons_of_mem _ member))
        (Bytes.drop_add_of_drop found rfl)
      rw [List.length_cons, readEntries, unshifted, entry_at source startFits dataFits found]
      simp [next, readBack]

section End

/-- No end record fits behind the last place where it would be whole. -/
theorem endRecord_at_late (late : file.length < offset + 22) :
    EndRecord.at? file offset = none := by
  have slice : file.slice? offset 22 = none := by
    rw [Bytes.slice?, if_neg]
    rw [List.length_take, List.length_drop]
    omega
  simp [EndRecord.at?, recordAt, slice]

/-- The first of the places at which a signature is looked for, if it stands there. -/
theorem signaturePlaces_of_prefix {signature : Bytes} (stop : Nat)
    (signed : signature.isPrefixOf (file.drop offset) = true)
    (inside : offset + signature.length ≤ stop) :
    ∃ others, signaturePlaces file signature offset stop = offset :: others := by
  obtain ⟨count, enough⟩ : ∃ count, stop + 1 - signature.length - offset = count + 1 :=
    ⟨stop - signature.length - offset, by omega⟩
  rw [signaturePlaces, enough, List.range'_succ, List.filter_cons, if_pos signed]
  exact ⟨_, rfl⟩

/-- Of all places at which the signature of the end record stands, the one is the last that
has as many bytes behind it as an end record without a comment. -/
theorem signaturePlaces_end (signed : endSignature.isPrefixOf (file.drop offset) = true)
    (whole : file.length = offset + 22) :
    ∃ earlier later, signaturePlaces file endSignature 0 file.length = earlier ++ offset :: later ∧
      ∀ place ∈ later, EndRecord.at? file place = none := by
  have count : file.length + 1 - endSignature.length - 0 = offset + (1 + 18) := by
    rw [whole]
    rfl
  have parts : List.range' 0 (offset + (1 + 18)) =
      List.range' 0 offset ++ offset :: List.range' (offset + 1) 18 := by
    rw [← List.range'_append_1, Nat.zero_add, Nat.add_comm 1 18, List.range'_succ]
  rw [signaturePlaces, count, parts, List.filter_append, List.filter_cons, if_pos signed]
  refine ⟨_, _, rfl, fun place member => endRecord_at_late ?_⟩
  have beyond := (List.mem_range'_1.mp (List.mem_of_mem_filter member)).1
  omega

variable (sources : List Source)

/-- Where the end record lies. -/
def endOffset : Nat :=
  (locals sources).length + (directory sources).length

theorem length_archive : (archive sources).length = endOffset sources + 22 := by
  have record : (endRecord sources).length = 22 := rfl
  rw [archive, List.length_append, List.length_append, record, endOffset]
  omega

theorem drop_locals :
    (archive sources).drop (locals sources).length = directory sources ++ endRecord sources := by
  rw [archive, List.drop_left]

theorem drop_endOffset : (archive sources).drop (endOffset sources) = endRecord sources ++ [] := by
  rw [List.append_nil, endOffset, ← List.drop_drop, drop_locals, List.drop_left]

theorem endRecord_at (few : sources.length < 0x10000)
    (small : (locals sources).length < 256 ^ 4) :
    EndRecord.at? (archive sources) (endOffset sources) =
      some ⟨0, 0, sources.length, sources.length, (locals sources).length, 0⟩ := by
  have record : recordAt (archive sources) endSignature (endOffset sources) 22 =
      some (endRecord sources) := recordAt_of_drop (drop_endOffset sources) rfl rfl
  have disk : fieldOf (endRecord sources) 4 2 = 0 := rfl
  have directoryDisk : fieldOf (endRecord sources) 6 2 = 0 := rfl
  have here : fieldOf (endRecord sources) 8 2 = sources.length := fieldOf_of_take rfl few
  have entries : fieldOf (endRecord sources) 10 2 = sources.length := fieldOf_of_take rfl few
  have directoryOffset : fieldOf (endRecord sources) 16 4 = (locals sources).length :=
    fieldOf_of_take rfl small
  have comment : fieldOf (endRecord sources) 20 2 = 0 := rfl
  simp [EndRecord.at?, record, disk, directoryDisk, here, entries, directoryOffset, comment,
    length_archive]

/-- The place of the directory of an archive that was written. -/
def writtenPlace : DirectoryPlace :=
  ⟨0, (locals sources).length, sources.length, true⟩

theorem narrowPlace_archive :
    narrowPlace (archive sources)
      ⟨0, 0, sources.length, sources.length, (locals sources).length, 0⟩ (endOffset sources) =
        some (writtenPlace sources) := by
  rw [narrowPlace]
  dsimp only
  cases sources with
  | nil => rfl
  | cons source rest =>
      have filled : 46 ≤ (directory (source :: rest)).length := by
        simp only [directory, placed, List.flatMap_cons, List.length_append,
          length_directoryHeader]
        omega
      have signed : directorySignature.isPrefixOf
          ((archive (source :: rest)).drop (locals (source :: rest)).length) = true := by
        rw [drop_locals]
        rfl
      have signature : directorySignature.length = 4 := rfl
      obtain ⟨others, places⟩ := signaturePlaces_of_prefix (endOffset (source :: rest)) signed
        (by rw [endOffset, signature]; omega)
      rw [if_neg (by simp), if_neg (by rw [endOffset]; omega), places]
      simp [writtenPlace]

theorem places_archive (few : sources.length < 0xffff)
    (small : (archive sources).length < 0x100000000) :
    ∃ others, places (archive sources) = some (writtenPlace sources) :: others := by
  have length := length_archive sources
  have startFits : (locals sources).length < 0xffffffff := by
    rw [endOffset] at length
    omega
  have signed : endSignature.isPrefixOf ((archive sources).drop (endOffset sources)) = true := by
    rw [drop_endOffset]
    rfl
  obtain ⟨earlier, later, signatures, tooLate⟩ := signaturePlaces_end signed length
  have record := endRecord_at sources (Nat.lt_succ_of_lt few) (Nat.lt_succ_of_lt startFits)
  -- No number is saturated, so no other end record is asked for the true one.
  have noLocator : locatorBefore (archive sources)
      ⟨0, 0, sources.length, sources.length, (locals sources).length, 0⟩ (endOffset sources) =
        none := by
    have unsaturated : EndRecord.maySaturate
        ⟨0, 0, sources.length, sources.length, (locals sources).length, 0⟩ = false := by
      simp [EndRecord.maySaturate, Nat.ne_of_lt few, Nat.ne_of_lt startFits]
    rw [locatorBefore, unsaturated]
    rfl
  -- The signatures are tried from the back, and those behind the end record give nothing.
  rw [places, signatures, List.reverse_append, List.reverse_cons, List.filterMap_append,
    List.filterMap_append, List.filterMap_eq_nil_iff.mpr fun place member => by
      rw [tooLate place (List.mem_reverse.mp member)]
      rfl]
  rw [List.nil_append, List.filterMap_cons_some (b := some (writtenPlace sources))
    (by simp [record, noLocator, narrowPlace_archive])]
  exact ⟨_, rfl⟩

end End

/-- An archive that was written is read back entry by entry. -/
theorem entries_archive (sources : List Source) (few : sources.length < 0xffff)
    (small : (archive sources).length < 0x100000000) :
    entries (archive sources) = some (readBack (placed 0 sources)) := by
  obtain ⟨others, isFirst⟩ := places_archive sources few small
  have length := length_archive sources
  have start : (archive sources).drop 0 =
      locals sources ++ (directory sources ++ endRecord sources) := rfl
  have fits : ∀ source ∈ placed 0 sources,
      source.2 < 256 ^ 4 ∧ source.1.packing.data.length < 256 ^ 4 := by
    rintro ⟨source, place⟩ member
    obtain ⟨behind, found⟩ := drop_of_mem_placed start member
    have lengths := congrArg List.length found
    have record : source.localRecord.length = 30 := rfl
    simp only [List.length_drop, Source.layout, List.length_append, record] at lengths
    constructor
    · change place < 0x100000000
      omega
    · change source.packing.data.length < 0x100000000
      omega
  have read : entriesAt (archive sources) (writtenPlace sources) =
      some (readBack (placed 0 sources)) := by
    have early : (writtenPlace sources).start < UInt64.size := by
      refine Nat.lt_of_lt_of_le (m := 0x100000000) ?_ (by decide)
      rw [length, endOffset] at small
      simp only [writtenPlace]
      omega
    have count : (writtenPlace sources).entries = (placed 0 sources).length :=
      (length_placed 0 sources).symm
    have sameDisk : (writtenPlace sources).sameDisk = true := rfl
    rw [entriesAt, sameDisk, decide_eq_true early, count]
    exact readEntries_of_drop rfl fits (drop_locals sources)
  rw [entries, isFirst, List.findSome?_cons]
  simp [read]

end SelfUpdate.Zip
