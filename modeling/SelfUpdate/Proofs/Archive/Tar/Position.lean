import SelfUpdate.Archive.Tar.Member
import SelfUpdate.Proofs.Result

/-!
# Where a reader of a tar archive stands

A reader has passed some bytes of a stream and has the others before it.  All it does is to
go on from there.  So behind a header that it has read lies the data of the member, and what
it knows of the size of that data is written in the stream: in the header itself, or in the
records behind an extended header that came before.
-/

namespace SelfUpdate.Tar

variable {α β : Type}

/-- Steps behind a check that succeed have been reached, because the check did not fail. -/
theorem of_check_eq_ok {fails : Bool} {next : Unit → Except Broken β} {result : β}
    (done : (if fails = true then broken >>= next else next ()) = .ok result) :
    fails = false ∧ next () = .ok result := by
  cases fails with
  | true => simp [broken, bind, Except.bind] at done
  | false => exact ⟨rfl, done⟩

theorem check_eq_of_false {fails : Bool} {next : Unit → Except Broken β}
    (holds : fails = false) :
    (if fails = true then broken >>= next else next ()) = next () := by
  rw [holds, if_neg Bool.false_ne_true]

/-- The reader has passed as many bytes of the stream as its offset says. -/
def Reader.IsIn (reader : Reader) (stream : Stream) : Prop :=
  reader.stream = ⟨stream.bytes.drop reader.offset, stream.ends⟩

/-- An intact header lies right in front of an offset. -/
structure HeaderBefore (stream : Stream) (offset : Nat) (header : Header) : Prop where
  inside : blockSize ≤ offset
  block : stream.bytes.slice? (offset - blockSize) blockSize = some header.block
  isIntact : header.isIntact = true

/-- Some records are the data behind an extended header. -/
def Extends (stream : Stream) (content : Bytes) : Prop :=
  ∃ offset header size, HeaderBefore stream offset header ∧ header.kind = .extended ∧
    memberSize header none = .ok size ∧ content = (stream.bytes.drop offset).take size

/-- The header of a file lies in front of an offset, and a size is recorded for it, either
there or in the records of an extended header. -/
def Records (stream : Stream) (offset size : Nat) : Prop :=
  ∃ header records, HeaderBefore stream offset header ∧ header.kind = .file ∧
    (∀ content ∈ records, Extends stream content) ∧ memberSize header records = .ok size

section Steps

variable {stream : Stream} {reader after : Reader} {bytes : Bytes}

namespace Reader

theorem isIn_ofStream (stream : Stream) : (ofStream stream).IsIn stream :=
  rfl

theorem isIn_of_read {count : Nat} (before : reader.IsIn stream)
    (done : reader.read count = .ok (bytes, after)) :
    after.IsIn stream ∧ bytes = (stream.bytes.drop reader.offset).take count ∧
      after.offset = reader.offset + bytes.length := by
  obtain ⟨⟨part, rest⟩, isRead, done⟩ := of_bind_eq_ok done
  obtain ⟨rfl, rfl⟩ : part = bytes ∧ _ = after := by simpa [pure, Except.pure] using done
  rw [before, Stream.read] at isRead
  split at isRead
  · obtain ⟨rfl, rfl⟩ : _ = part ∧ _ = rest := by simpa using isRead
    refine ⟨?_, rfl, rfl⟩
    simp only [IsIn, List.length_take, List.length_drop]
    rcases Nat.le_total count (stream.bytes.length - reader.offset) with inside | beyond
    · rw [Nat.min_eq_left inside]
    · rw [Nat.min_eq_right beyond, List.drop_of_length_le (by omega),
        List.drop_of_length_le (by omega)]
  · simp at isRead

theorem isIn_of_skip (before : reader.IsIn stream) (done : reader.skip = .ok after) :
    after.IsIn stream := by
  obtain ⟨⟨bytes, next⟩, isRead, done⟩ := of_bind_eq_ok done
  dsimp only at done
  split at done
  · simp [broken] at done
  · obtain rfl : next = after := by simpa [pure, Except.pure] using done
    exact (isIn_of_read before isRead).1

theorem isIn_of_block {block : Bytes} (before : reader.IsIn stream)
    (done : reader.block = .ok (some block, after)) :
    after.IsIn stream ∧ after.offset = reader.offset + blockSize ∧
      stream.bytes.slice? reader.offset blockSize = some block := by
  obtain ⟨⟨bytes, next⟩, isRead, done⟩ := of_bind_eq_ok done
  obtain ⟨isIn, rfl, offset⟩ := isIn_of_read before isRead
  dsimp only at done
  split at done
  · simp [pure, Except.pure] at done
  split at done
  · simp [broken] at done
  next enough =>
    obtain ⟨rfl, rfl⟩ : _ = block ∧ next = after := by simpa [pure, Except.pure] using done
    have whole : ((stream.bytes.drop reader.offset).take blockSize).length = blockSize :=
      Nat.le_antisymm (List.length_take_le _ _) (Nat.le_of_not_lt enough)
    refine ⟨isIn, by rw [offset, whole], ?_⟩
    rw [Bytes.slice?, if_pos whole]

theorem isIn_of_header {header : Header} (before : reader.IsIn stream)
    (done : reader.header = .ok (some header, after)) :
    after.IsIn stream ∧ HeaderBefore stream after.offset header := by
  obtain ⟨start, isSkipped, done⟩ := of_bind_eq_ok done
  have isIn := isIn_of_skip before isSkipped
  obtain ⟨⟨block, next⟩, isBlock, done⟩ := of_bind_eq_ok done
  cases block with
  | none => simp [pure, Except.pure] at done
  | some block =>
      obtain ⟨isIn, offset, slice⟩ := isIn_of_block isIn isBlock
      dsimp only at done
      split at done
      · simp [pure, Except.pure] at done
      split at done
      · next intact =>
          obtain ⟨rfl, rfl⟩ : _ = header ∧ _ = after := by simpa [pure, Except.pure] using done
          refine ⟨isIn, ?_, ?_, intact⟩
          · dsimp only
            omega
          · rw [show next.offset - blockSize = start.offset by omega]
            exact slice
      · simp [broken] at done

theorem isIn_of_enter {size : Nat} (before : reader.IsIn stream)
    (done : reader.enter size = .ok after) :
    after.IsIn stream ∧ after.offset = reader.offset ∧ size + blockSize ≤ UInt64.size := by
  unfold enter at done
  dsimp only at done
  split at done
  · next fits =>
      obtain rfl := Except.ok.inj done
      have small := decide_eq_true_iff.mp (Bool.and_eq_true_iff.mp fits).1
      refine ⟨before, rfl, ?_⟩
      simp only [blockSize] at small ⊢
      omega
  · simp [broken] at done

end Reader

theorem isIn_of_readSparseBlocks {size rounds : Nat} {map full : SparseMap}
    (before : reader.IsIn stream)
    (done : readSparseBlocks size rounds map reader = .ok (full, after)) :
    after.IsIn stream := by
  induction rounds generalizing map reader with
  | zero => simp [readSparseBlocks, broken] at done
  | succ rounds ih =>
      obtain ⟨⟨block, next⟩, isBlock, done⟩ := of_bind_eq_ok done
      cases block with
      | none => simp [broken] at done
      | some block =>
          have isIn := (Reader.isIn_of_block before isBlock).1
          obtain ⟨longer, -, done⟩ := of_bind_eq_ok done
          dsimp only at done
          split at done
          · have isInBehind :
                { next with next := next.next + blockSize : Reader }.IsIn stream := isIn
            exact ih isInBehind done
          · obtain ⟨-, rfl⟩ : longer = full ∧ _ = after := by
              simpa [pure, Except.pure] using done
            exact isIn

theorem isIn_of_checkSparse {header : Header} {size : Nat} (before : reader.IsIn stream)
    (done : checkSparse header size reader = .ok after) : after.IsIn stream := by
  unfold checkSparse at done
  dsimp only at done
  obtain ⟨-, done⟩ := of_check_eq_ok done
  obtain ⟨map, -, done⟩ := of_bind_eq_ok done
  split at done
  · obtain ⟨⟨full, next⟩, isFull, done⟩ := of_bind_eq_ok done
    obtain ⟨whole, -, done⟩ := of_bind_eq_ok done
    obtain ⟨-, done⟩ := of_check_eq_ok done
    obtain rfl : next = after := by simpa [pure, Except.pure] using done
    exact isIn_of_readSparseBlocks before isFull
  · obtain ⟨⟨full, next⟩, isFull, done⟩ := of_bind_eq_ok done
    obtain ⟨whole, -, done⟩ := of_bind_eq_ok done
    obtain ⟨-, done⟩ := of_check_eq_ok done
    obtain ⟨-, rfl⟩ : map = full ∧ reader = next := by simpa [pure, Except.pure] using isFull
    obtain rfl : reader = after := by simpa [pure, Except.pure] using done
    exact before

/-- What was announced of the next member lies in the stream. -/
def Announced.IsIn (announced : Announced) (stream : Stream) : Prop :=
  ∀ content ∈ announced.records, Extends stream content

/-- A reader behind the header of a member stands in the stream, at data of a size that can
be counted and that, if the member is a file, is recorded. -/
structure Member.At (member : Member) (stream : Stream) (reader : Reader) : Prop where
  isIn : reader.IsIn stream
  size_le : member.size + blockSize ≤ UInt64.size
  records : member.isFile = true → Records stream reader.offset member.size

theorem at_of_readMember {rounds : Nat} {announced : Announced} {member : Member}
    (known : announced.IsIn stream) (before : reader.IsIn stream)
    (done : readMember rounds announced reader = .ok (some (member, after))) :
    member.At stream after := by
  induction rounds generalizing announced reader with
  | zero => simp [readMember, broken] at done
  | succ rounds ih =>
      obtain ⟨⟨header, start⟩, isHeader, done⟩ := of_bind_eq_ok done
      cases header with
      | none =>
          dsimp only at done
          split at done <;> simp [broken, pure, Except.pure] at done
      | some header =>
          obtain ⟨size, isSize, done⟩ := of_bind_eq_ok done
          obtain ⟨entered, isEntered, done⟩ := of_bind_eq_ok done
          obtain ⟨isIn, headerBefore⟩ := Reader.isIn_of_header before isHeader
          obtain ⟨isIn, offset, size_le⟩ := Reader.isIn_of_enter isIn isEntered
          rw [← offset] at headerBefore
          dsimp only at done
          split at done
          · obtain ⟨-, done⟩ := of_check_eq_ok done
            obtain ⟨⟨content, behind⟩, isRead, done⟩ := of_bind_eq_ok done
            have known' :
                { announced with longName := some content : Announced }.IsIn stream := known
            exact ih known' (Reader.isIn_of_read isIn isRead).1 done
          · obtain ⟨-, done⟩ := of_check_eq_ok done
            obtain ⟨⟨content, behind⟩, isRead, done⟩ := of_bind_eq_ok done
            have known' :
                { announced with longLink := some content : Announced }.IsIn stream := known
            exact ih known' (Reader.isIn_of_read isIn isRead).1 done
          · next kind =>
            obtain ⟨first, done⟩ := of_check_eq_ok done
            obtain ⟨⟨content, behind⟩, isRead, done⟩ := of_bind_eq_ok done
            obtain ⟨isInBehind, isContent, -⟩ := Reader.isIn_of_read isIn isRead
            -- No records were announced before, so the size of these is the header's own.
            have nothing : announced.records = none := by simpa using first
            refine ih (fun records found => ?_) isInBehind done
            obtain rfl : content = records := by simpa using found
            exact ⟨entered.offset, header, size, headerBefore, kind, nothing ▸ isSize, isContent⟩
          · obtain ⟨checked, isChecked, done⟩ := of_bind_eq_ok done
            obtain ⟨rfl, rfl⟩ : _ = member ∧ checked = after := by
              simpa [pure, Except.pure] using done
            exact ⟨isIn_of_checkSparse isIn isChecked, size_le, nofun⟩
          · obtain ⟨rfl, rfl⟩ : _ = member ∧ entered = after := by
              simpa [pure, Except.pure] using done
            refine ⟨isIn, size_le, fun isFile => ?_⟩
            exact ⟨header, announced.records, headerBefore, beq_iff_eq.mp isFile, known, isSize⟩

end Steps

end SelfUpdate.Tar
