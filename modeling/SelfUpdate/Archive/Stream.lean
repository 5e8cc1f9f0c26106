import SelfUpdate.Bytes.Basic

/-!
# Byte streams that end or break off

Reading an archive means reading a stream whose bytes come from a decoder. Such a
stream delivers some bytes and then either ends or fails. Reads never look
further than they were asked to, so a failure behind the last byte wanted is
never noticed.
-/

namespace SelfUpdate

/-- The bytes a reader will still deliver, and whether it then ends or fails. -/
structure Stream where
  bytes : Bytes
  ends : Bool
  deriving DecidableEq, Repr

/-- A read ran into the failure of a stream. -/
inductive Broken where
  | broken
  deriving DecidableEq, Repr

/-- How a bounded read of a whole stream ended. -/
inductive Bounded where
  | complete (bytes : Bytes)
  | tooLarge
  | broken
  deriving DecidableEq, Repr

namespace Stream

def ofBytes (bytes : Bytes) : Stream := ⟨bytes, true⟩

/-- Read `count` bytes, or what is left if the stream ends before. -/
def read (stream : Stream) (count : Nat) : Except Broken (Bytes × Stream) :=
  if count ≤ stream.bytes.length || stream.ends then
    .ok (stream.bytes.take count, ⟨stream.bytes.drop count, stream.ends⟩)
  else .error .broken

/-- The first `count` bytes of a stream as a stream of its own. It ends there, or where
the whole stream ends or fails before. -/
def limit (stream : Stream) (count : Nat) : Stream :=
  ⟨stream.bytes.take count, stream.ends || count ≤ stream.bytes.length⟩

/-- Read a stream to its end, taking at most one byte more than `limit`. A limit of
2^64 − 1 cannot be exceeded by one: the number of bytes asked for stays there. -/
def readBounded (stream : Stream) (limit : UInt64) : Bounded :=
  let asked := min (limit.toNat + 1) (UInt64.size - 1)
  let part := stream.limit asked
  if !part.ends then .broken
  else if limit.toNat < part.bytes.length then .tooLarge
  else .complete part.bytes

end Stream

end SelfUpdate
