import SelfUpdate.Bytes.Basic

/-!
# The CRC-32 checksum

The cyclic redundancy check of 32 bits that gzip and zip use, with reflected
polynomial `edb88320`.
-/

namespace SelfUpdate.Checksum

/-- One division step for the lowest bit. -/
def step (remainder : UInt32) : UInt32 :=
  if remainder &&& 1 = 0 then remainder >>> 1 else (remainder >>> 1) ^^^ 0xedb88320

def absorb (remainder : UInt32) (byte : UInt8) : UInt32 :=
  let mixed := remainder ^^^ byte.toUInt32
  step (step (step (step (step (step (step (step mixed)))))))

def crc32 (bytes : Bytes) : UInt32 :=
  bytes.foldl absorb 0xffffffff ^^^ 0xffffffff

end SelfUpdate.Checksum
