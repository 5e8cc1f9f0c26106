import SelfUpdate.Archive.Deflate.Inflate

/-!
# What follows compressed data

Compressed data tells where it ends.  So decompression that has come to this end comes to
it no matter what follows, and leaves all of what follows.

Each reader of bits is shown to be steady, which means that it reads no further than it
has to: where it succeeds, it succeeds in the same way if there is more.
-/

namespace SelfUpdate.Deflate

/-- The source with more bytes behind those it has. -/
def BitSource.append (source : BitSource) (more : Bytes) : BitSource :=
  ⟨source.pending, source.rest ++ more⟩

/-- A reader that does not notice what follows what it reads. -/
def Steady {α : Type} (reader : BitReader α) : Prop :=
  ∀ source value after more, reader source = .ok (value, after) →
    reader (source.append more) = .ok (value, after.append more)

section Readers

variable {α β : Type} {reader : BitReader α}

theorem steady_pure (value : α) : Steady (pure value : BitReader α) := by
  rintro source result after more ⟨⟩
  rfl

theorem steady_fault : Steady (fault : BitReader α) := by
  rintro source result after more ⟨⟩

theorem steady_fault_bind (next : α → BitReader β) : Steady (fault >>= next) := by
  rintro source result after more ⟨⟩

theorem Steady.bind {next : α → BitReader β} (steady : Steady reader)
    (further : ∀ value, Steady (next value)) : Steady (reader >>= next) := by
  intro source value after more read
  change (reader source >>= fun result => next result.1 result.2) = _ at read
  change (reader (source.append more) >>= fun result => next result.1 result.2) = _
  cases first : reader source with
  | error stop => simp [first, Bind.bind, Except.bind] at read
  | ok result =>
      rw [first] at read
      rw [steady source result.1 result.2 more first]
      exact further result.1 result.2 value after more read

theorem steady_readBit : Steady readBit := by
  rintro ⟨pending, rest⟩ bit after more read
  match pending, rest with
  | _ :: _, _ =>
      obtain ⟨rfl, rfl⟩ : _ = bit ∧ _ = after := by simpa [readBit] using read
      rfl
  | [], _ :: _ =>
      obtain ⟨rfl, rfl⟩ : _ = bit ∧ _ = after := by simpa [readBit] using read
      rfl
  | [], [] => simp [readBit] at read

theorem steady_readBits (width : Nat) : Steady (readBits width) := by
  induction width with
  | zero => exact steady_pure 0
  | succ width ih =>
      exact steady_readBit.bind fun bit => ih.bind fun higher => steady_pure _

theorem steady_read (code : PrefixCode) : Steady code.read := by
  induction code with
  | absent => exact steady_fault
  | symbol value => exact steady_pure value
  | branch zero one zeroSteady oneSteady =>
      refine steady_readBit.bind fun bit => ?_
      cases bit
      · exact zeroSteady
      · exact oneSteady

theorem steady_readTabled (table : Array (Nat × Nat)) (symbol : Nat) :
    Steady (readTabled table symbol) := by
  unfold readTabled
  split
  · exact steady_fault
  · exact (steady_readBits _).bind fun _ => steady_pure _

theorem steady_readItem (codes : BlockCodes) : Steady (readItem codes) := by
  refine (steady_read _).bind fun symbol => ?_
  split
  · exact steady_pure _
  split
  · exact steady_pure _
  refine (steady_readTabled _ _).bind fun length => (steady_read _).bind fun distance => ?_
  exact (steady_readTabled _ _).bind fun _ => steady_pure _

theorem steady_fixedCodes : Steady fixedCodes := by
  unfold fixedCodes
  split
  · exact steady_pure _
  · exact steady_fault

theorem steady_readTriples (count : Nat) : Steady (readTriples count) := by
  induction count with
  | zero => exact steady_pure []
  | succ count ih => exact (steady_readBits 3).bind fun first => ih.bind fun _ => steady_pure _

theorem steady_readCodeLengths (code : PrefixCode) (total rounds : Nat) (lengths : List Nat) :
    Steady (readCodeLengths code total rounds lengths) := by
  induction rounds generalizing lengths with
  | zero => exact steady_fault
  | succ rounds ih =>
      unfold readCodeLengths
      split
      · exact steady_pure _
      have repeated (length count : Nat) : Steady
          (if total < lengths.length + count then fault
            else readCodeLengths code total rounds (List.replicate count length ++ lengths)) := by
        split
        · exact steady_fault
        · exact ih _
      refine (steady_read code).bind fun symbol => ?_
      dsimp only
      split
      · exact ih _
      split
      · refine (steady_readBits 2).bind fun count => ?_
        split
        · exact steady_fault
        · exact repeated _ _
      split
      · exact (steady_readBits 3).bind fun count => repeated _ _
      · exact (steady_readBits 7).bind fun count => repeated _ _

theorem steady_readCodes : Steady readCodes := by
  refine (steady_readBits 5).bind fun literals => (steady_readBits 5).bind fun distances => ?_
  refine (steady_readBits 4).bind fun count => ?_
  dsimp only
  split
  · exact steady_fault_bind _
  refine (steady_readTriples _).bind fun triples => ?_
  split
  · exact steady_fault
  refine (steady_readCodeLengths _ _ _ _).bind fun lengths => ?_
  split
  · exact steady_fault_bind _
  split
  · exact steady_pure _
  · exact steady_fault

theorem steady_alignToByte : Steady alignToByte := by
  rintro ⟨pending, rest⟩ value after more ⟨⟩
  rfl

theorem steady_readStoredLength : Steady readStoredLength := by
  refine steady_alignToByte.bind fun _ => (steady_readBits 16).bind fun length => ?_
  refine (steady_readBits 16).bind fun complement => ?_
  split
  · exact steady_pure _
  · exact steady_fault

theorem steady_readBlockHeader : Steady readBlockHeader :=
  steady_readBit.bind fun _ => (steady_readBits 2).bind fun _ => steady_pure _

end Readers

section Blocks

variable {rounds extra kind : Nat} {output result : Array UInt8} {source after : BitSource}
  {more : Bytes}

theorem size_append (source : BitSource) (more : Bytes) :
    (source.append more).size = source.size + 8 * more.length := by
  simp only [BitSource.size, BitSource.append, List.length_append]
  omega

theorem inflateItems_append {codes : BlockCodes}
    (ended : inflateItems codes rounds output source = (result, .ok after)) :
    inflateItems codes (rounds + extra) output (source.append more) =
      (result, .ok (after.append more)) := by
  induction rounds generalizing output source with
  | zero => simp [inflateItems] at ended
  | succ rounds ih =>
      rw [Nat.succ_add_eq_add_succ, Nat.add_succ]
      unfold inflateItems at ended ⊢
      cases read : readItem codes source with
      | error stop => simp [read] at ended
      | ok found =>
          obtain ⟨item, behind⟩ := found
          rw [read] at ended
          rw [steady_readItem codes source item behind more read]
          cases item with
          | literal byte => exact ih ended
          | endOfBlock =>
              obtain ⟨rfl, rfl⟩ : output = result ∧ behind = after := by simpa using ended
              rfl
          | copy length distance =>
              dsimp only at ended ⊢
              split at ended
              · next within => rw [if_pos within]; exact ih ended
              · simp at ended

theorem inflateCoded_append {readCodes : BitReader BlockCodes} (steady : Steady readCodes)
    (ended : inflateCoded readCodes output source = (result, .ok after)) :
    inflateCoded readCodes output (source.append more) = (result, .ok (after.append more)) := by
  unfold inflateCoded at ended ⊢
  cases read : readCodes source with
  | error stop => simp [read] at ended
  | ok found =>
      obtain ⟨codes, behind⟩ := found
      rw [read] at ended
      rw [steady source codes behind more read]
      dsimp only at ended ⊢
      rw [size_append, Nat.add_right_comm]
      exact inflateItems_append ended

theorem inflateStored_append
    (ended : inflateStored output source = (result, .ok after)) :
    inflateStored output (source.append more) = (result, .ok (after.append more)) := by
  unfold inflateStored at ended ⊢
  cases read : readStoredLength source with
  | error stop => simp [read] at ended
  | ok found =>
      obtain ⟨length, behind⟩ := found
      rw [read] at ended
      rw [steady_readStoredLength source length behind more read]
      dsimp only at ended ⊢
      split at ended
      · next whole =>
          have enough : length ≤ behind.rest.length := by
            rw [List.length_take] at whole
            omega
          obtain ⟨rfl, rfl⟩ : output ++ behind.rest.take length = result ∧
              ⟨[], behind.rest.drop length⟩ = after := by simpa using ended
          simp [BitSource.append, List.take_append_of_le_length enough,
            List.drop_append_of_le_length enough, enough]
      · simp at ended

theorem inflateBlock_append (ended : inflateBlock kind output source = (result, .ok after)) :
    inflateBlock kind output (source.append more) = (result, .ok (after.append more)) := by
  unfold inflateBlock at ended ⊢
  split
  · exact inflateStored_append (by simpa [*] using ended)
  split
  · exact inflateCoded_append steady_fixedCodes (by simpa [*] using ended)
  split
  · exact inflateCoded_append steady_readCodes (by simpa [*] using ended)
  · simp [*] at ended

theorem inflateBlocks_append {rest : Bytes} (extra : Nat) (more : Bytes)
    (ended : inflateBlocks rounds output source = (result, .finished rest)) :
    inflateBlocks (rounds + extra) output (source.append more) =
      (result, .finished (rest ++ more)) := by
  induction rounds generalizing output source with
  | zero => simp [inflateBlocks] at ended
  | succ rounds ih =>
      -- The run ends before the extra rounds are needed.
      rw [Nat.succ_add_eq_add_succ, Nat.add_succ]
      unfold inflateBlocks at ended ⊢
      cases header : readBlockHeader source with
      | error stop => cases stop <;> simp [header] at ended
      | ok found =>
          obtain ⟨⟨last, kind⟩, inside⟩ := found
          rw [header] at ended
          rw [steady_readBlockHeader source _ inside more header]
          dsimp only at ended ⊢
          rcases block : inflateBlock kind output inside with ⟨written, stop | behind⟩
          · cases stop <;> simp [block] at ended
          · rw [block] at ended
            rw [inflateBlock_append block]
            dsimp only at ended ⊢
            cases last with
            | true =>
                obtain ⟨rfl, rfl⟩ : written = result ∧ behind.rest = rest := by
                  simpa using ended
                rfl
            | false => exact ih ended

/-- Decompression that has come to the end of the data leaves what follows. -/
theorem inflate_append {data content rest : Bytes}
    (ended : inflate data = (content, .finished rest)) (more : Bytes) :
    inflate (data ++ more) = (content, .finished (rest ++ more)) := by
  let source := BitSource.ofBytes data
  have longer : BitSource.ofBytes (data ++ more) = source.append more := rfl
  rcases blocks : inflateBlocks (source.size + 1) #[] source with ⟨output, ending⟩
  obtain ⟨rfl, rfl⟩ : output.toList = content ∧ ending = .finished rest := by
    simpa [inflate, source, blocks] using ended
  have further := inflateBlocks_append (8 * more.length) more blocks
  rw [Nat.add_right_comm, ← size_append] at further
  simp only [inflate, longer, further]

end Blocks

end SelfUpdate.Deflate
