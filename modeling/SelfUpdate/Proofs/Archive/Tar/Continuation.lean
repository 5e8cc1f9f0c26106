import SelfUpdate.Proofs.Archive.Tar.Agreement

/-!
# What follows the file that is found

A search for a file ends at the first one that has the name.  All that it reads on its way lies
in front of the data of that file, also where something is announced of a member before it
comes.  So extraction depends on nothing behind that data: other members, damaged headers, a
missing end and a wrong checksum of the whole make no difference.
-/

namespace SelfUpdate

namespace Tar

variable {stream other : Stream} {reader after : Reader} {limit : Nat}

/-- A header about the next member is taken up with its data, unless one of its kind was
taken up before. -/
inductive Header.Announces (header : Header) (announced : Announced) (content : Bytes) :
    Announced → Prop where
  | longName (kind : header.kind = .longName) (first : announced.longName = none) :
      header.Announces announced content { announced with longName := some content }
  | longLink (kind : header.kind = .longLink) (first : announced.longLink = none) :
      header.Announces announced content { announced with longLink := some content }
  | extended (kind : header.kind = .extended) (first : announced.records = none) :
      header.Announces announced content { announced with records := some content }

/-- A reader passes the header that it comes to, behind which lies data of some size. -/
structure Reader.Passes (reader : Reader) (announced : Announced) (header : Header) (size : Nat)
    (entered : Reader) : Prop where
  isSize : memberSize header announced.records = .ok size
  isPassed : ∃ start, reader.header = .ok (some header, start) ∧ start.enter size = .ok entered

/-- A reader comes to a member and stands at its data. -/
inductive Reader.Reaches : Announced → Reader → Member → Reader → Prop where
  | plain {announced : Announced} {reader entered : Reader} {header : Header} {size : Nat}
      (passes : reader.Passes announced header size entered)
      (kind : header.kind = .file ∨ header.kind = .other) :
      Reaches announced reader ⟨memberPath header announced, header.kind == .file, size⟩ entered
  | sparse {announced : Announced} {reader entered after : Reader} {header : Header} {size : Nat}
      (passes : reader.Passes announced header size entered) (kind : header.kind = .sparse)
      (isChecked : checkSparse header size entered = .ok after) :
      Reaches announced reader ⟨memberPath header announced, false, size⟩ after
  | announced {announced further : Announced} {reader entered behind after : Reader}
      {header : Header} {size : Nat} {content : Bytes} {member : Member}
      (passes : reader.Passes announced header size entered)
      (announces : header.Announces announced content further)
      (isRead : entered.read size = .ok (content, behind))
      (later : Reaches further behind member after) :
      Reaches announced reader member after

theorem reaches_of_readMember {rounds : Nat} {announced : Announced} {member : Member}
    (done : readMember rounds announced reader = .ok (some (member, after))) :
    Reader.Reaches announced reader member after := by
  induction rounds generalizing announced reader with
  | zero => simp [readMember, broken] at done
  | succ rounds ih =>
      obtain ⟨⟨header, start⟩, isHeader, done⟩ := of_bind_eq_ok done
      cases header with
      | none =>
          dsimp only at done
          split at done <;> simp [broken, pure, Except.pure] at done
      | some header =>
          obtain ⟨size, isSize, done⟩ := of_bind_eq_ok done
          obtain ⟨entered, isEntered, done⟩ := of_bind_eq_ok done
          have passes : reader.Passes announced header size entered :=
            ⟨isSize, start, isHeader, isEntered⟩
          dsimp only at done
          split at done
          · next kind =>
            obtain ⟨first, done⟩ := of_check_eq_ok done
            obtain ⟨⟨content, behind⟩, isRead, done⟩ := of_bind_eq_ok done
            exact .announced passes (.longName kind (by simpa using first)) isRead (ih done)
          · next kind =>
            obtain ⟨first, done⟩ := of_check_eq_ok done
            obtain ⟨⟨content, behind⟩, isRead, done⟩ := of_bind_eq_ok done
            exact .announced passes (.longLink kind (by simpa using first)) isRead (ih done)
          · next kind =>
            obtain ⟨first, done⟩ := of_check_eq_ok done
            obtain ⟨⟨content, behind⟩, isRead, done⟩ := of_bind_eq_ok done
            exact .announced passes (.extended kind (by simpa using first)) isRead (ih done)
          · next kind =>
            obtain ⟨checked, isChecked, done⟩ := of_bind_eq_ok done
            obtain ⟨rfl, rfl⟩ : _ = member ∧ checked = after := by
              simpa [pure, Except.pure] using done
            exact .sparse passes kind isChecked
          · next notLongName notLongLink notExtended notSparse =>
            obtain ⟨rfl, rfl⟩ : _ = member ∧ entered = after := by
              simpa [pure, Except.pure] using done
            refine .plain passes ?_
            cases kind : header.kind <;> simp_all

namespace Reader

theorem Passes.isIn {announced : Announced} {header : Header} {size : Nat} {entered : Reader}
    (passes : reader.Passes announced header size entered) (isIn : reader.IsIn stream) :
    entered.IsIn stream := by
  obtain ⟨-, start, isHeader, isEntered⟩ := passes
  exact (isIn_of_enter (isIn_of_header isIn isHeader).1 isEntered).1

/-- A header lies behind all that was to be skipped before it, and its data lies in front of
the next one. -/
theorem Passes.offset {announced : Announced} {header : Header} {size : Nat} {entered : Reader}
    (passes : reader.Passes announced header size entered) (isIn : reader.IsIn stream) :
    entered.offset = max reader.offset reader.next + blockSize ∧
      entered.offset + size ≤ entered.next := by
  obtain ⟨-, start, isHeader, isEntered⟩ := passes
  obtain ⟨offset, next⟩ := offset_of_header isIn isHeader
  have same := (isIn_of_enter (isIn_of_header isIn isHeader).1 isEntered).2.1
  have further := next_of_enter isEntered
  exact ⟨same.trans offset, by omega⟩

theorem Passes.moved {announced : Announced} {header : Header} {size : Nat} {entered : Reader}
    (passes : reader.Passes announced header size entered) (agrees : stream.Agrees other limit)
    (isIn : reader.IsIn stream) (within : entered.offset ≤ limit) :
    (reader.moved other).Passes announced header size (entered.moved other) := by
  obtain ⟨isSize, start, isHeader, isEntered⟩ := passes
  have same := (isIn_of_enter (isIn_of_header isIn isHeader).1 isEntered).2.1
  exact ⟨isSize, start.moved other, header_moved agrees isIn isHeader (by omega),
    enter_moved isEntered⟩

theorem Reaches.isIn {announced : Announced} {member : Member}
    (reaches : Reaches announced reader member after) (isIn : reader.IsIn stream) :
    after.IsIn stream := by
  induction reaches with
  | plain passes _ => exact passes.isIn isIn
  | sparse passes _ isChecked => exact isIn_of_checkSparse (passes.isIn isIn) isChecked
  | announced passes _ isRead _ ih => exact ih (isIn_of_read (passes.isIn isIn) isRead).1

/-- A member lies behind all that was to be skipped before it. -/
theorem Reaches.offset {announced : Announced} {member : Member}
    (reaches : Reaches announced reader member after) (isIn : reader.IsIn stream) :
    max reader.offset reader.next + blockSize ≤ after.offset := by
  induction reaches with
  | plain passes _ => exact Nat.le_of_eq (passes.offset isIn).1.symm
  | sparse passes _ isChecked =>
      have further := offset_of_checkSparse (passes.isIn isIn) isChecked
      exact (passes.offset isIn).1 ▸ further
  | announced passes _ isRead _ ih =>
      have later := ih (isIn_of_read (passes.isIn isIn) isRead).1
      have passed := (passes.offset isIn).1
      have further := (next_of_read isRead).2
      omega

/-- What is announced of a member lies in front of it.  So all that is read on the way to the
member is read whole, and is the same in a stream that agrees up to there. -/
theorem Reaches.moved {announced : Announced} {member : Member}
    (reaches : Reaches announced reader member after) (agrees : stream.Agrees other limit)
    (isIn : reader.IsIn stream) (within : after.offset ≤ limit) :
    Reaches announced (reader.moved other) member (after.moved other) := by
  induction reaches with
  | plain passes kind => exact .plain (passes.moved agrees isIn within) kind
  | sparse passes kind isChecked =>
      have isInEntered := passes.isIn isIn
      have further := offset_of_checkSparse isInEntered isChecked
      exact .sparse (passes.moved agrees isIn (by omega)) kind
        (checkSparse_moved agrees isInEntered isChecked within)
  | announced passes announces isRead later ih =>
      have isInEntered := passes.isIn isIn
      have isInBehind := (isIn_of_read isInEntered isRead).1
      have further := later.offset isInBehind
      have inFront := (passes.offset isIn).2
      obtain ⟨next, offset⟩ := next_of_read isRead
      exact .announced (passes.moved agrees isIn (by omega)) announces
        (read_moved agrees isInEntered isRead (by omega)) (ih isInBehind within)

end Reader

/-- Each header takes a round, so there are enough of them if they reach as far as the reader
does. -/
theorem readMember_of_reaches {announced : Announced} {member : Member} {rounds : Nat}
    (reaches : Reader.Reaches announced reader member after) (isIn : reader.IsIn stream)
    (enough : after.offset < reader.offset + rounds) :
    readMember rounds announced reader = .ok (some (member, after)) := by
  induction reaches generalizing rounds with
  | plain passes kind =>
      have forward := (passes.offset isIn).1
      obtain ⟨rounds, rfl⟩ := Nat.exists_eq_succ_of_ne_zero (n := rounds) (by omega)
      obtain ⟨isSize, start, isHeader, isEntered⟩ := passes
      refine (bind_eq_of_ok isHeader).trans ((bind_eq_of_ok isSize).trans ?_)
      refine (bind_eq_of_ok isEntered).trans ?_
      rcases kind with kind | kind <;> simp only [kind] <;> rfl
  | sparse passes kind isChecked =>
      have forward := (passes.offset isIn).1
      have further := offset_of_checkSparse (passes.isIn isIn) isChecked
      obtain ⟨rounds, rfl⟩ := Nat.exists_eq_succ_of_ne_zero (n := rounds) (by omega)
      obtain ⟨isSize, start, isHeader, isEntered⟩ := passes
      refine (bind_eq_of_ok isHeader).trans ((bind_eq_of_ok isSize).trans ?_)
      refine (bind_eq_of_ok isEntered).trans ?_
      simp only [kind]
      exact bind_eq_of_ok isChecked
  | announced passes announces isRead later ih =>
      have forward := (passes.offset isIn).1
      have isInBehind := (Reader.isIn_of_read (passes.isIn isIn) isRead).1
      have further := later.offset isInBehind
      have offset := (Reader.next_of_read isRead).2
      simp only [blockSize] at forward further
      obtain ⟨rounds, rfl⟩ := Nat.exists_eq_succ_of_ne_zero (n := rounds) (by omega)
      have found : readMember rounds _ _ = _ := ih isInBehind (by omega)
      obtain ⟨isSize, start, isHeader, isEntered⟩ := passes
      refine (bind_eq_of_ok isHeader).trans ((bind_eq_of_ok isSize).trans ?_)
      refine (bind_eq_of_ok isEntered).trans ?_
      cases announces with
      | longName kind first | longLink kind first | extended kind first =>
          simp only [kind]
          refine (check_eq_of_false (by simp [first])).trans ?_
          exact (bind_eq_of_ok isRead).trans found

section Search

variable {name : Bytes} {member : Member} {rounds : Nat}

theorem offset_of_seek (isIn : reader.IsIn stream)
    (found : seek name rounds reader = .ok (some (member, after))) :
    reader.offset + blockSize ≤ after.offset := by
  induction rounds generalizing reader with
  | zero => simp [seek, broken] at found
  | succ rounds ih =>
      obtain ⟨next, isNext, found⟩ := of_bind_eq_ok found
      cases next with
      | none => simp [pure, Except.pure] at found
      | some next =>
          have reaches := reaches_of_readMember isNext
          have forward := reaches.offset isIn
          dsimp only at found
          split at found
          · obtain ⟨-, rfl⟩ : next.1 = member ∧ next.2 = after := by
              simpa [pure, Except.pure, Prod.ext_iff] using found
            omega
          · have further := ih (reaches.isIn isIn) found
            omega

theorem seek_moved {turns : Nat} (agrees : stream.Agrees other limit) (isIn : reader.IsIn stream)
    (found : seek name rounds reader = .ok (some (member, after))) (within : after.offset ≤ limit)
    (enough : after.offset < reader.offset + turns) :
    seek name turns (reader.moved other) = .ok (some (member, after.moved other)) := by
  induction rounds generalizing reader turns with
  | zero => simp [seek, broken] at found
  | succ rounds ih =>
      have forward := offset_of_seek isIn found
      have inside := agrees.insideOther
      obtain ⟨turns, rfl⟩ := Nat.exists_eq_succ_of_ne_zero (n := turns) (by omega)
      obtain ⟨next, isNext, found⟩ := of_bind_eq_ok found
      cases next with
      | none => simp [pure, Except.pure] at found
      | some next =>
          have reaches := reaches_of_readMember isNext
          have isInNext := reaches.isIn isIn
          have reached := reaches.offset isIn
          have passed : next.2.offset ≤ after.offset := by
            dsimp only at found
            split at found
            · obtain ⟨-, rfl⟩ : next.1 = member ∧ next.2 = after := by
                simpa [pure, Except.pure, Prod.ext_iff] using found
              exact Nat.le_refl _
            · exact Nat.le_trans (Nat.le_add_right _ _) (offset_of_seek isInNext found)
          have isInOther : (reader.moved other).IsIn other := rfl
          have isNextOther : readMember ((reader.moved other).stream.bytes.length + 1) .nothing
              (reader.moved other) = .ok (some (next.1, next.2.moved other)) := by
            refine readMember_of_reaches (reaches.moved agrees isIn (by omega)) isInOther ?_
            simp only [Reader.moved, List.length_drop]
            omega
          refine (bind_eq_of_ok isNextOther).trans ?_
          dsimp only at found ⊢
          split at found
          · next isFound =>
              obtain ⟨rfl, rfl⟩ : next.1 = member ∧ next.2 = after := by
                simpa [pure, Except.pure, Prod.ext_iff] using found
              rw [if_pos isFound]
              rfl
          · next isOther =>
              rw [if_neg isOther]
              simp only [blockSize] at reached
              exact ih isInNext found (by omega)

/-- A search that ends at some file ends there in every stream that begins with the same bytes,
up to the data of the file. -/
theorem seekIn_moved (agrees : stream.Agrees other limit)
    (found : seekIn name stream = .ok (some (member, reader))) (within : reader.offset ≤ limit) :
    seekIn name other = .ok (some (member, reader.moved other)) := by
  have inside := agrees.insideOther
  have atStart : (Reader.ofStream stream).moved other = Reader.ofStream other := rfl
  rw [seekIn, ← atStart]
  refine seek_moved agrees (Reader.isIn_ofStream stream) found within ?_
  change reader.offset < 0 + _
  omega

end Search

end Tar

section Extraction

variable {payload otherPayload content otherContent : Bytes} {entry : String}
  {member : Tar.Member} {reader : Tar.Reader}

/-- Extraction gives the data that a search finds in a stream, if the payload agrees with that
stream up to the end of the data. -/
theorem extract_of_agrees (decoders : Zip.Decoders) {stream : Stream}
    (found : Tar.seekIn (Bytes.ofString entry) stream = .ok (some (member, reader)))
    (isTar : ArchiveFormat.sniff payload = .gzipTar)
    (agrees : stream.Agrees (Gzip.content payload) (reader.offset + member.size))
    (limit : UInt64) :
    extract decoders entry payload limit =
      if member.size ≤ limit.toNat then
        .ok ((stream.bytes.drop reader.offset).take member.size)
      else .error (.entryTooLarge entry limit) := by
  have foundThere := Tar.seekIn_moved agrees found (Nat.le_add_right _ _)
  have isAt := (Tar.at_of_seek (Tar.Reader.isIn_ofStream _) foundThere).1
  have outcome := extract_of_seekIn decoders isTar limit foundThere isAt
  have inside := agrees.insideOther
  have enough : member.size ≤ ((Gzip.content payload).bytes.drop reader.offset).length := by
    rw [List.length_drop]
    omega
  have beyond : limit.toNat < min member.size
      ((Gzip.content payload).bytes.drop reader.offset).length ↔ ¬member.size ≤ limit.toNat := by
    rw [Nat.min_eq_left enough, Nat.not_le]
  refine outcome.trans ((if_congr beyond rfl (if_pos (Or.inr enough))).trans ?_)
  rw [ite_not]
  exact congrArg (ite _ · _) (congrArg Except.ok (agrees.part_eq (Nat.le_refl _)))

/-- Two payloads whose contents are the same up to the end of the data of the file that is
found in the first give the same file.  It does not matter what follows that data, and neither
do the checksum and the length behind the compressed data. -/
theorem extract_of_agreeing_contents (decoders : Zip.Decoders)
    (holds : Gzip.Holds payload content)
    (otherHolds : Gzip.Holds otherPayload otherContent)
    (found : Tar.seekIn (Bytes.ofString entry) (.ofBytes content) = .ok (some (member, reader)))
    (inside : reader.offset + member.size ≤ content.length)
    (same : otherContent.take (reader.offset + member.size) =
      content.take (reader.offset + member.size)) (limit : UInt64) :
    extract decoders entry otherPayload limit = extract decoders entry payload limit ∧
      extract decoders entry payload limit =
        if member.size ≤ limit.toNat then .ok ((content.drop reader.offset).take member.size)
        else .error (.entryTooLarge entry limit) := by
  have agrees : (Stream.ofBytes content).Agrees (Gzip.content payload)
      (reader.offset + member.size) :=
    ⟨inside, congrArg (List.take _) holds.bytes_content⟩
  have otherAgrees : (Stream.ofBytes content).Agrees (Gzip.content otherPayload)
      (reader.offset + member.size) :=
    ⟨inside, (congrArg (List.take _) otherHolds.bytes_content).trans same⟩
  have outcome := extract_of_agrees decoders found holds.sniff agrees limit
  exact ⟨(extract_of_agrees decoders found otherHolds.sniff otherAgrees limit).trans
    outcome.symm, outcome⟩

end Extraction

section Example

/-- The header and the data of the sample file, with some bytes behind them. -/
def sampleFront (behind : Bytes) : Bytes :=
  Tar.sampleFile.header ++ ([0x01, 0x02, 0x03] ++ behind)

/-- A payload that ends where the compressed data does, without a trailer. -/
def sampleFrontFile (behind : Bytes) : Bytes :=
  Tar.noHeading.bytes ++ (Deflate.storedBlock (sampleFront behind) ++ [])

theorem holds_sampleFrontFile {behind : Bytes} (short : behind.length < 100) :
    Gzip.Holds (sampleFrontFile behind) (sampleFront behind) := by
  refine Gzip.Holds.of_encodes Tar.noHeading (Deflate.encodes_storedBlock ?_) []
  have length : (sampleFront behind).length = Tar.blockSize + (3 + behind.length) := by
    rw [sampleFront, List.length_append, Tar.Source.length_header, List.length_append]
    rfl
  rw [length, Tar.blockSize]
  omega

/-- A byte behind the sample file makes no difference. -/
theorem extract_of_agreeing_samples :
    Gzip.Holds (sampleFrontFile []) (sampleFront []) ∧
      Gzip.Holds (sampleFrontFile [0xff]) (sampleFront [0xff]) ∧
      extract .none "a" (sampleFrontFile [0xff]) 100 =
        extract .none "a" (sampleFrontFile []) 100 := by
  have holds : Gzip.Holds (sampleFrontFile []) (sampleFront []) :=
    holds_sampleFrontFile (by decide)
  have otherHolds : Gzip.Holds (sampleFrontFile [0xff]) (sampleFront [0xff]) :=
    holds_sampleFrontFile (by decide)
  have found := seekIn_of_matches matches_sampleFile ([0x01, 0x02, 0x03] ++ []) true
  have inside : Tar.blockSize + 3 ≤ (sampleFront []).length := by
    rw [sampleFront, List.length_append, Tar.Source.length_header]
    rfl
  have same : (sampleFront [0xff]).take (Tar.blockSize + 3) =
      (sampleFront []).take (Tar.blockSize + 3) := by
    simp [sampleFront, List.take_append]
  exact ⟨holds, otherHolds,
    (extract_of_agreeing_contents .none holds otherHolds found inside same 100).1⟩

end Example

end SelfUpdate
