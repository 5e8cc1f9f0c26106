import Mathlib.Tactic.Ring
import SelfUpdate.Proofs.Archive.Gzip

/-!
# Stored blocks

Any content that is not too long for one block can be stored in it as it is, so that there
is always an encoding of it.
-/

namespace SelfUpdate.Deflate

/-- The number that some bits spell, the first being the lowest. -/
def numberOfBits : List Bool → Nat
  | [] => 0
  | bit :: bits => bit.toNat + 2 * numberOfBits bits

theorem numberOfBits_bitsOf (byte : UInt8) : numberOfBits (bitsOf byte) = byte.toNat := by
  have each : ∀ number < 256,
      numberOfBits (bitsOf (UInt8.ofNat number)) = (UInt8.ofNat number).toNat := by
    decide +kernel
  simpa using each byte.toNat byte.toNat_lt

/-- Bits left of a byte are the lowest of a number, and the rest of it comes from the
bytes behind. -/
theorem readBits_pending (width : Nat) (pending : List Bool) (rest : Bytes) :
    readBits (pending.length + width) ⟨pending, rest⟩ =
      (readBits width ⟨[], rest⟩).map fun read =>
        (numberOfBits pending + 2 ^ pending.length * read.1, read.2) := by
  induction pending with
  | nil =>
      rw [List.length_nil, Nat.zero_add]
      cases readBits width ⟨[], rest⟩ <;> simp [Except.map, numberOfBits]
  | cons bit pending ih =>
      rw [List.length_cons, Nat.succ_add]
      change ((readBits (pending.length + width) ⟨pending, rest⟩) >>= fun read =>
        Except.ok (bit.toNat + 2 * read.1, read.2)) = _
      rw [ih]
      cases readBits width ⟨[], rest⟩ with
      | error stop => rfl
      | ok read =>
          have value : bit.toNat + 2 * (numberOfBits pending + 2 ^ pending.length * read.1) =
              numberOfBits (bit :: pending) + 2 ^ (pending.length + 1) * read.1 := by
            rw [numberOfBits, Nat.pow_succ]
            ring
          change Except.ok (bit.toNat + 2 * (numberOfBits pending + 2 ^ pending.length * read.1),
            read.2) = _
          rw [value]
          rfl

theorem readBits_nil (width : Nat) (byte : UInt8) (rest : Bytes) :
    readBits (width + 1) ⟨[], byte :: rest⟩ = readBits (width + 1) ⟨bitsOf byte, rest⟩ :=
  rfl

/-- Between two bytes, eight bits are the next byte. -/
theorem readBits_byte (width : Nat) (byte : UInt8) (rest : Bytes) :
    readBits (8 + width) ⟨[], byte :: rest⟩ =
      (readBits width ⟨[], rest⟩).map fun read => (byte.toNat + 256 * read.1, read.2) := by
  have whole := readBits_pending width (bitsOf byte) rest
  have length : (bitsOf byte).length = 8 := rfl
  rw [numberOfBits_bitsOf, length] at whole
  rw [show 8 + width = 7 + width + 1 by omega] at whole ⊢
  rw [readBits_nil, whole]
  rfl

theorem readBits_ofNumber {size number : Nat} (fits : number < 256 ^ size) (rest : Bytes) :
    readBits (8 * size) ⟨[], Bytes.ofNumber size number ++ rest⟩ = .ok (number, ⟨[], rest⟩) := by
  induction size generalizing number with
  | zero =>
      have zero : number = 0 := by simpa using fits
      rw [zero]
      rfl
  | succ size ih =>
      have higher : number / 256 < 256 ^ size := by
        rw [Nat.pow_succ] at fits
        exact Nat.div_lt_of_lt_mul (by rwa [Nat.mul_comm])
      have digit : (UInt8.ofNat number).toNat + 256 * (number / 256) = number := by
        rw [UInt8.toNat_ofNat']
        omega
      rw [Nat.mul_succ, Nat.add_comm, Bytes.ofNumber, List.cons_append, readBits_byte,
        ih higher, Except.map, digit]

/-- A last block in which some content is stored. -/
def storedBlock (content : Bytes) : Bytes :=
  0x01 :: (Bytes.ofNumber 2 content.length ++
    (Bytes.ofNumber 2 (0xffff - content.length) ++ content))

theorem readStoredLength_lengths {content : Bytes} (short : content.length < 0x10000)
    (pending : List Bool) :
    readStoredLength ⟨pending, Bytes.ofNumber 2 content.length ++
      (Bytes.ofNumber 2 (0xffff - content.length) ++ content)⟩ =
        .ok (content.length, ⟨[], content⟩) := by
  have complement : 0xffff - content.length < 256 ^ 2 :=
    Nat.lt_of_le_of_lt (Nat.sub_le _ _) (by decide)
  have lengthFits : content.length < 256 ^ 2 := short
  have first := readBits_ofNumber lengthFits
    (Bytes.ofNumber 2 (0xffff - content.length) ++ content)
  have second := readBits_ofNumber complement content
  have both : content.length + (0xffff - content.length) = 0xffff := by omega
  simp only [Nat.reduceMul] at first second
  have aligned (rest : Bytes) : alignToByte ⟨pending, rest⟩ = .ok ((), ⟨[], rest⟩) := rfl
  simp only [readStoredLength, bind, StateT.bind, Except.bind, aligned, first, second, both,
    if_true]
  rfl

/-- A stored block is an encoding of what is stored in it. -/
theorem encodes_storedBlock {content : Bytes} (short : content.length < 0x10000) :
    Encodes (storedBlock content) content := by
  have header : readBlockHeader (.ofBytes (storedBlock content)) =
      .ok ((true, 0), ⟨[false, false, false, false, false], (storedBlock content).tail⟩) := rfl
  rw [Encodes, inflate, inflateBlocks, header]
  simp [inflateBlock, inflateStored, storedBlock, readStoredLength_lengths short]

end SelfUpdate.Deflate
