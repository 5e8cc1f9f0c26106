import SelfUpdate.Bytes.Basic
import SelfUpdate.Text.Numeral

/-!
# Random names

A random name is made of 128 bits, all but six of them random. The six say that the
others are. The bits are written as hexadecimal digits in five groups.
-/

namespace SelfUpdate

/-- The sixteen bytes of a random name: some random bytes with the six fixed bits put in. -/
def fixedBits (random : Bytes) : Bytes :=
  random.zipIdx.map fun (byte, index) =>
    if index = 6 then (byte &&& 0x0f) ||| 0x40
    else if index = 8 then (byte &&& 0x3f) ||| 0x80
    else byte

/-- Bytes in groups of the given sizes. -/
def groups : (sizes : List Nat) → Bytes → List Bytes
  | [], _ => []
  | size :: sizes, bytes => bytes.take size :: groups sizes (bytes.drop size)

/-- The random name that sixteen random bytes give. -/
def randomName (random : Bytes) : String :=
  let digits (group : Bytes) : String :=
    String.ofList ((group.flatMap Text.byteDigits).map Char.toLower)
  "-".intercalate ((groups [4, 2, 2, 2, 6] (fixedBits random)).map digits)

end SelfUpdate
