/-!
# Byte strings

Files, archives and messages are byte strings, read from the front. Numbers in
them are little-endian unless said otherwise, and a read past the end has no
value.
-/

namespace SelfUpdate

abbrev Bytes := List UInt8

namespace Bytes

def ofString (text : String) : Bytes :=
  text.toUTF8.toList

/-- The number that some bytes spell, the first being the least. -/
def littleEndian : Bytes → Nat
  | [] => 0
  | byte :: rest => byte.toNat + 256 * littleEndian rest

/-- The number that some bytes spell, the first being the greatest. -/
def bigEndian (bytes : Bytes) : Nat :=
  bytes.foldl (fun number byte => 256 * number + byte.toNat) 0

/-- The `count` bytes at an offset, if there are that many. -/
def slice? (bytes : Bytes) (offset count : Nat) : Option Bytes :=
  let part := (bytes.drop offset).take count
  if part.length = count then some part else none

def number? (bytes : Bytes) (offset count : Nat) : Option Nat :=
  (bytes.slice? offset count).map littleEndian

/-- The bytes before the first one equal to `stop`, or all of them. -/
def upTo (stop : UInt8) (bytes : Bytes) : Bytes :=
  bytes.takeWhile (· != stop)

end Bytes

end SelfUpdate
