import SelfUpdate.Proofs.Archive.Tar.Truncation

/-!
# What a search does not look at

A reader that has come to the data of a file has looked at nothing behind its own place.  So
if another stream begins with the same bytes, at least up to the end of that data, a reader of
it comes to the same place in the same way, and takes the same data.

Each step of a reader is carried over to the other stream on its own.  The only steps that
may meet the end of a stream are those that read what is announced of the next member, and
then no member comes after them.
-/

namespace SelfUpdate

/-- Two streams begin with the same bytes, at least `count` of them. -/
structure Stream.Agrees (stream other : Stream) (count : Nat) : Prop where
  inside : count ≤ stream.bytes.length
  same : other.bytes.take count = stream.bytes.take count

namespace Stream.Agrees

variable {stream other : Stream} {count offset size : Nat}

theorem insideOther (agrees : stream.Agrees other count) : count ≤ other.bytes.length := by
  have lengths := congrArg List.length agrees.same
  rw [List.length_take, List.length_take, Nat.min_eq_left agrees.inside] at lengths
  exact min_eq_left_iff.mp lengths

/-- What lies in front of the place up to which the streams agree is the same in both. -/
theorem part_eq (agrees : stream.Agrees other count) (fits : offset + size ≤ count) :
    (other.bytes.drop offset).take size = (stream.bytes.drop offset).take size := by
  have part (bytes : Bytes) :
      (bytes.drop offset).take size = ((bytes.take count).drop offset).take size := by
    rw [List.drop_take, List.take_take, Nat.min_eq_left (by omega)]
  rw [part, part stream.bytes, agrees.same]

end Stream.Agrees

namespace Tar

variable {stream other : Stream} {reader after : Reader} {bytes : Bytes} {limit : Nat}

/-- The reader that stands at the same place of another stream. -/
def Reader.moved (reader : Reader) (other : Stream) : Reader :=
  { reader with stream := ⟨other.bytes.drop reader.offset, other.ends⟩ }

namespace Reader

theorem moved_of_isIn (isIn : reader.IsIn stream) : reader.moved stream = reader := by
  rw [moved, ← isIn]

theorem read_of_inside {count : Nat} (inside : reader.offset + count ≤ stream.bytes.length) :
    (reader.moved stream).read count =
      .ok ((stream.bytes.drop reader.offset).take count,
        { reader with offset := reader.offset + count }.moved stream) := by
  have enough : count ≤ stream.bytes.length - reader.offset := by omega
  simp [read, Stream.read, moved, enough, bind, Except.bind, pure, Except.pure]

/-- Reading leaves alone where the next header lies. -/
theorem next_of_read {count : Nat} (done : reader.read count = .ok (bytes, after)) :
    after.next = reader.next ∧ after.offset = reader.offset + bytes.length := by
  obtain ⟨⟨part, rest⟩, -, done⟩ := of_bind_eq_ok done
  obtain ⟨rfl, rfl⟩ : part = bytes ∧ _ = after := by simpa [pure, Except.pure] using done
  exact ⟨rfl, rfl⟩

theorem read_moved {count : Nat} (agrees : stream.Agrees other limit) (isIn : reader.IsIn stream)
    (done : reader.read count = .ok (bytes, after)) (fits : reader.offset + count ≤ limit) :
    (reader.moved other).read count = .ok (bytes, after.moved other) := by
  have here := read_of_inside (Nat.le_trans fits agrees.inside)
  rw [moved_of_isIn isIn, done] at here
  obtain ⟨rfl, rfl⟩ : bytes = _ ∧ after = _ := by simpa using here
  rw [read_of_inside (Nat.le_trans fits agrees.insideOther), agrees.part_eq fits]
  rfl

theorem offset_of_skip (isIn : reader.IsIn stream) (done : reader.skip = .ok after) :
    after.offset = max reader.offset reader.next := by
  obtain ⟨⟨bytes, next⟩, isRead, done⟩ := of_bind_eq_ok done
  obtain ⟨-, rfl, offset⟩ := isIn_of_read isIn isRead
  dsimp only at done
  split at done
  · simp [broken] at done
  next enough =>
    obtain rfl : next = after := by simpa [pure, Except.pure] using done
    rw [List.length_take] at enough offset
    omega

theorem skip_moved (agrees : stream.Agrees other limit) (isIn : reader.IsIn stream)
    (done : reader.skip = .ok after) (within : after.offset ≤ limit) :
    (reader.moved other).skip = .ok (after.moved other) := by
  have offset := offset_of_skip isIn done
  obtain ⟨⟨bytes, next⟩, isRead, done⟩ := of_bind_eq_ok done
  have isReadOther := read_moved agrees isIn isRead (by omega)
  have sameCount : (reader.moved other).next - (reader.moved other).offset =
      reader.next - reader.offset := rfl
  rw [skip, sameCount, isReadOther]
  dsimp only [bind, Except.bind] at done ⊢
  split at done
  · simp [broken] at done
  next enough =>
    obtain rfl : next = after := by simpa [pure, Except.pure] using done
    rw [if_neg enough]
    rfl

theorem block_moved {block : Bytes} (agrees : stream.Agrees other limit)
    (isIn : reader.IsIn stream) (done : reader.block = .ok (some block, after))
    (within : after.offset ≤ limit) :
    (reader.moved other).block = .ok (some block, after.moved other) := by
  obtain ⟨-, offset, -⟩ := isIn_of_block isIn done
  obtain ⟨⟨bytes, next⟩, isRead, done⟩ := of_bind_eq_ok done
  rw [Reader.block, read_moved agrees isIn isRead (by omega)]
  dsimp only [bind, Except.bind] at done ⊢
  split at done
  · simp [pure, Except.pure] at done
  next notEmpty =>
    split at done
    · simp [broken] at done
    next enough =>
      obtain ⟨rfl, rfl⟩ : bytes = block ∧ next = after := by
        simpa [pure, Except.pure] using done
      rw [if_neg notEmpty, if_neg enough]
      rfl

/-- A header is looked for where the one before says that it lies. -/
theorem offset_of_header {header : Header} (isIn : reader.IsIn stream)
    (done : reader.header = .ok (some header, after)) :
    after.offset = max reader.offset reader.next + blockSize ∧ after.next = after.offset := by
  obtain ⟨start, isSkipped, done⟩ := of_bind_eq_ok done
  have skipped := offset_of_skip isIn isSkipped
  obtain ⟨⟨block, next⟩, isBlock, done⟩ := of_bind_eq_ok done
  cases block with
  | none => simp [pure, Except.pure] at done
  | some block =>
      obtain ⟨-, offset, -⟩ := isIn_of_block (isIn_of_skip isIn isSkipped) isBlock
      dsimp only at done
      split at done
      · simp [pure, Except.pure] at done
      split at done
      · obtain ⟨-, rfl⟩ : _ = header ∧ _ = after := by simpa [pure, Except.pure] using done
        exact ⟨by rw [← skipped, ← offset], rfl⟩
      · simp [broken] at done

theorem header_moved {header : Header} (agrees : stream.Agrees other limit)
    (isIn : reader.IsIn stream) (done : reader.header = .ok (some header, after))
    (within : after.offset ≤ limit) :
    (reader.moved other).header = .ok (some header, after.moved other) := by
  obtain ⟨offset, -⟩ := offset_of_header isIn done
  obtain ⟨start, isSkipped, done⟩ := of_bind_eq_ok done
  have skipped := offset_of_skip isIn isSkipped
  have isInStart := isIn_of_skip isIn isSkipped
  obtain ⟨⟨block, next⟩, isBlock, done⟩ := of_bind_eq_ok done
  rw [Reader.header, skip_moved agrees isIn isSkipped (by omega)]
  cases block with
  | none => simp [pure, Except.pure] at done
  | some block =>
      obtain ⟨-, nextOffset, -⟩ := isIn_of_block isInStart isBlock
      have isBlockOther := block_moved agrees isInStart isBlock (by omega)
      dsimp only [bind, Except.bind] at done ⊢
      rw [isBlockOther]
      dsimp only
      split at done
      · simp [pure, Except.pure] at done
      next notZero =>
        split at done
        · next intact =>
            obtain ⟨rfl, rfl⟩ : _ = header ∧ _ = after := by
              simpa [pure, Except.pure] using done
            rw [if_neg notZero, if_pos intact]
            rfl
        · simp [broken] at done

theorem next_of_enter {size : Nat} (done : reader.enter size = .ok after) :
    reader.next + size ≤ after.next := by
  unfold enter at done
  dsimp only at done
  split at done
  · obtain rfl := Except.ok.inj done
    simp only [blockSize]
    omega
  · simp [broken] at done

/-- Noting where the data of a member ends has nothing to do with the stream. -/
theorem enter_moved {size : Nat} (done : reader.enter size = .ok after) :
    (reader.moved other).enter size = .ok (after.moved other) := by
  unfold enter at done ⊢
  dsimp only at done
  split at done
  · next fits =>
      obtain rfl := Except.ok.inj done
      exact if_pos fits
  · simp [broken] at done

end Reader

theorem offset_of_readSparseBlocks {size rounds : Nat} {map full : SparseMap}
    (isIn : reader.IsIn stream)
    (done : readSparseBlocks size rounds map reader = .ok (full, after)) :
    reader.offset + blockSize ≤ after.offset := by
  induction rounds generalizing map reader with
  | zero => simp [readSparseBlocks, broken] at done
  | succ rounds ih =>
      obtain ⟨⟨block, next⟩, isBlock, done⟩ := of_bind_eq_ok done
      cases block with
      | none => simp [broken] at done
      | some block =>
          obtain ⟨isInNext, offset, -⟩ := Reader.isIn_of_block isIn isBlock
          obtain ⟨longer, -, done⟩ := of_bind_eq_ok done
          dsimp only at done
          split at done
          · have isInBehind :
                { next with next := next.next + blockSize : Reader }.IsIn stream := isInNext
            have further := ih isInBehind done
            dsimp only at further
            omega
          · obtain ⟨-, rfl⟩ : longer = full ∧ _ = after := by
              simpa [pure, Except.pure] using done
            exact Nat.le_of_eq offset.symm

/-- Each block takes a round, so there are enough of them if they reach as far as the
reader does. -/
theorem readSparseBlocks_moved {size rounds turns : Nat} {map full : SparseMap}
    (agrees : stream.Agrees other limit) (isIn : reader.IsIn stream)
    (done : readSparseBlocks size rounds map reader = .ok (full, after))
    (within : after.offset ≤ limit) (enough : after.offset < reader.offset + turns) :
    readSparseBlocks size turns map (reader.moved other) = .ok (full, after.moved other) := by
  induction rounds generalizing map reader turns with
  | zero => simp [readSparseBlocks, broken] at done
  | succ rounds ih =>
      have forward := offset_of_readSparseBlocks isIn done
      obtain ⟨turns, rfl⟩ := Nat.exists_eq_succ_of_ne_zero (n := turns) (by omega)
      obtain ⟨⟨block, next⟩, isBlock, done⟩ := of_bind_eq_ok done
      cases block with
      | none => simp [broken] at done
      | some block =>
          obtain ⟨isInNext, offset, -⟩ := Reader.isIn_of_block isIn isBlock
          have isBlockOther := Reader.block_moved agrees isIn isBlock (by omega)
          obtain ⟨longer, isLonger, done⟩ := of_bind_eq_ok done
          rw [readSparseBlocks, isBlockOther]
          dsimp only [bind, Except.bind] at done ⊢
          rw [isLonger]
          dsimp only
          split at done
          · next goesOn =>
              have isInBehind :
                  { next with next := next.next + blockSize : Reader }.IsIn stream := isInNext
              rw [if_pos goesOn]
              refine ih isInBehind done ?_
              dsimp only [blockSize] at offset ⊢
              omega
          · next stops =>
              obtain ⟨rfl, rfl⟩ : longer = full ∧ _ = after := by
                simpa [pure, Except.pure] using done
              rw [if_neg stops]
              rfl

theorem offset_of_checkSparse {header : Header} {size : Nat} (isIn : reader.IsIn stream)
    (done : checkSparse header size reader = .ok after) : reader.offset ≤ after.offset := by
  unfold checkSparse at done
  dsimp only at done
  obtain ⟨-, done⟩ := of_check_eq_ok done
  obtain ⟨map, -, done⟩ := of_bind_eq_ok done
  split at done
  · obtain ⟨⟨full, next⟩, isFull, done⟩ := of_bind_eq_ok done
    obtain ⟨whole, -, done⟩ := of_bind_eq_ok done
    obtain ⟨-, done⟩ := of_check_eq_ok done
    obtain rfl : next = after := by simpa [pure, Except.pure] using done
    exact Nat.le_trans (Nat.le_add_right _ _) (offset_of_readSparseBlocks isIn isFull)
  · obtain ⟨⟨full, next⟩, isFull, done⟩ := of_bind_eq_ok done
    obtain ⟨whole, -, done⟩ := of_bind_eq_ok done
    obtain ⟨-, done⟩ := of_check_eq_ok done
    obtain ⟨-, rfl⟩ : map = full ∧ reader = next := by simpa [pure, Except.pure] using isFull
    obtain rfl : reader = after := by simpa [pure, Except.pure] using done
    exact Nat.le_refl _

theorem checkSparse_moved {header : Header} {size : Nat} (agrees : stream.Agrees other limit)
    (isIn : reader.IsIn stream) (done : checkSparse header size reader = .ok after)
    (within : after.offset ≤ limit) :
    checkSparse header size (reader.moved other) = .ok (after.moved other) := by
  have inside := agrees.insideOther
  unfold checkSparse at done ⊢
  dsimp only at done ⊢
  obtain ⟨isGnu, done⟩ := of_check_eq_ok done
  obtain ⟨map, isMap, done⟩ := of_bind_eq_ok done
  refine (check_eq_of_false isGnu).trans ((bind_eq_of_ok isMap).trans ?_)
  split at done
  · next longer =>
      obtain ⟨⟨full, next⟩, isFull, done⟩ := of_bind_eq_ok done
      obtain ⟨whole, isWhole, done⟩ := of_bind_eq_ok done
      obtain ⟨isComplete, done⟩ := of_check_eq_ok done
      obtain rfl : next = after := by simpa [pure, Except.pure] using done
      have enough : next.offset <
          reader.offset + ((reader.moved other).stream.bytes.length + 1) := by
        simp only [Reader.moved, List.length_drop]
        omega
      have isFullOther := readSparseBlocks_moved agrees isIn isFull within enough
      rw [if_pos longer]
      refine (bind_eq_of_ok isFullOther).trans ((bind_eq_of_ok isWhole).trans ?_)
      exact check_eq_of_false isComplete
  · next shorter =>
      obtain ⟨⟨full, next⟩, isFull, done⟩ := of_bind_eq_ok done
      obtain ⟨whole, isWhole, done⟩ := of_bind_eq_ok done
      obtain ⟨isComplete, done⟩ := of_check_eq_ok done
      obtain ⟨rfl, rfl⟩ : map = full ∧ reader = next := by
        simpa [pure, Except.pure] using isFull
      obtain rfl : reader = after := by simpa [pure, Except.pure] using done
      rw [if_neg shorter]
      exact (bind_eq_of_ok isWhole).trans (check_eq_of_false isComplete)

end Tar

end SelfUpdate
