import SelfUpdate.Archive.Deflate.Bits

/-!
# Prefix codes given by code lengths

A prefix code is a binary tree with symbols at its leaves. The canonical code for
a list of code lengths has, at each depth, first the leaves of the symbols with
that length, in order, and then the inner nodes. It is therefore built from the
deepest level up: the nodes of one level, taken in pairs, are the inner nodes of
the level above.
-/

namespace SelfUpdate.Deflate

/-- A prefix code as a tree. -/
inductive PrefixCode where
  | absent
  | symbol (value : Nat)
  | branch (zero one : PrefixCode)
  deriving Repr

namespace PrefixCode

def maxLength : Nat := 15

/-- Inner nodes over the nodes of a level; a node without partner gets an absent one. -/
def pairUp : List PrefixCode → List PrefixCode
  | zero :: one :: rest => .branch zero one :: pairUp rest
  | [zero] => [.branch zero .absent]
  | [] => []

/-- The leaves at a depth: the symbols that have this code length. -/
def leavesAt (lengths : List Nat) (depth : Nat) : List PrefixCode :=
  (lengths.zipIdx.filter fun entry => entry.1 == depth).map fun entry => .symbol entry.2

/-- The nodes at the depth `maxLength - height`. -/
def nodesAt (lengths : List Nat) : (height : Nat) → List PrefixCode
  | 0 => leavesAt lengths maxLength
  | height + 1 =>
      leavesAt lengths (maxLength - (height + 1)) ++ pairUp (nodesAt lengths height)

/-- How much of the code space a code takes up, in units of the longest code. A symbol of
length zero has no code. -/
def spaceOf (length : Nat) : Nat :=
  if length = 0 then 0 else Nat.pow 2 (maxLength - length)

def spaceUsed (lengths : List Nat) : Nat :=
  lengths.foldr (fun length used => spaceOf length + used) 0

/-- Whether lengths make a code: they must fill the code space exactly. Where a single
code is enough, one code of one bit may stand alone; and there may be no code at all. -/
def isUsable (lengths : List Nat) (mayStandAlone : Bool) : Bool :=
  let used := spaceUsed lengths
  used == Nat.pow 2 maxLength || lengths.all (· == 0) ||
    (mayStandAlone && used < Nat.pow 2 maxLength && lengths.all (· ≤ 1))

/-- The canonical code for a list of lengths, one for each symbol; zero is for symbols
without code. -/
def ofLengths (lengths : List Nat) (mayStandAlone : Bool) : Option PrefixCode :=
  if isUsable lengths mayStandAlone then
    match pairUp (nodesAt lengths (maxLength - 1)) with
    | root :: _ => some root
    | [] => some (.branch .absent .absent)
  else none

def read : PrefixCode → BitReader Nat
  | .absent => fault
  | .symbol value => pure value
  | .branch zero one => do
      if ← readBit then one.read else zero.read

end PrefixCode

end SelfUpdate.Deflate
