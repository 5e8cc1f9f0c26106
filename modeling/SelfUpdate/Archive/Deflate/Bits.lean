import SelfUpdate.Bytes.Basic

/-!
# Reading bits

Compressed data is read bit by bit, each byte from its lowest bit on. Reading
stops for one of two reasons: the data is exhausted, or it is faulty.
-/

namespace SelfUpdate.Deflate

/-- The bits still to be read: those left of the current byte, and further bytes. -/
structure BitSource where
  pending : List Bool
  rest : Bytes

/-- Why reading stopped early: the data ran out, but is the beginning of something valid, or it
cannot be valid, whatever follows. -/
inductive Stop where
  | exhausted
  | faulty
  deriving DecidableEq, Repr

/-- A reader of bits. -/
abbrev BitReader := StateT BitSource (Except Stop)

/-- The bits of a byte, the lowest first. -/
def bitsOf (byte : UInt8) : List Bool :=
  [byte &&& 1 != 0, byte &&& 2 != 0, byte &&& 4 != 0, byte &&& 8 != 0,
    byte &&& 16 != 0, byte &&& 32 != 0, byte &&& 64 != 0, byte &&& 128 != 0]

def BitSource.ofBytes (bytes : Bytes) : BitSource := ⟨[], bytes⟩

def BitSource.size (source : BitSource) : Nat :=
  source.pending.length + 8 * source.rest.length

def readBit : BitReader Bool := fun source =>
  match source.pending, source.rest with
  | bit :: pending, rest => .ok (bit, ⟨pending, rest⟩)
  | [], byte :: rest => .ok (byte &&& 1 != 0, ⟨(bitsOf byte).tail, rest⟩)
  | [], [] => .error .exhausted

/-- Read a number of `width` bits, the lowest first. -/
def readBits : (width : Nat) → BitReader Nat
  | 0 => pure 0
  | width + 1 => do
      let bit ← readBit
      let higher ← readBits width
      return bit.toNat + 2 * higher

/-- Drop the bits left of the current byte. -/
def alignToByte : BitReader Unit :=
  modify fun source => { source with pending := [] }

def fault {α : Type} : BitReader α := fun _ => .error .faulty

end SelfUpdate.Deflate
