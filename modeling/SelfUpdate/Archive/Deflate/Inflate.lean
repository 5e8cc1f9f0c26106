import SelfUpdate.Archive.Deflate.PrefixCode
import SelfUpdate.Archive.Stream

/-!
# Decompression

Deflate data is a sequence of blocks: stored bytes, or literals and copies of
earlier output written in prefix codes, which are fixed or given in front of the
block. `inflate` returns all output up to where the data ends, is exhausted or
turns out faulty, and tells which of the three it was.
-/

namespace SelfUpdate.Deflate

/-- How decompression ended: with the last block, after which some bytes are left, or before
it. -/
inductive Ending where
  | finished (rest : Bytes)
  | exhausted
  | faulty
  deriving DecidableEq, Repr

/-- The codes of one block: for literals and lengths, and for distances. -/
structure BlockCodes where
  literals : PrefixCode
  distances : PrefixCode

inductive Item where
  | literal (byte : UInt8)
  | endOfBlock
  | copy (length distance : Nat)

/-- The least length and the number of extra bits for the length symbols from 257 on. -/
def lengthTable : Array (Nat × Nat) :=
  #[(3, 0), (4, 0), (5, 0), (6, 0), (7, 0), (8, 0), (9, 0), (10, 0), (11, 1), (13, 1),
    (15, 1), (17, 1), (19, 2), (23, 2), (27, 2), (31, 2), (35, 3), (43, 3), (51, 3),
    (59, 3), (67, 4), (83, 4), (99, 4), (115, 4), (131, 5), (163, 5), (195, 5), (227, 5),
    (258, 0)]

/-- The least distance and the number of extra bits for each distance symbol. -/
def distanceTable : Array (Nat × Nat) :=
  #[(1, 0), (2, 0), (3, 0), (4, 0), (5, 1), (7, 1), (9, 2), (13, 2), (17, 3), (25, 3),
    (33, 4), (49, 4), (65, 5), (97, 5), (129, 6), (193, 6), (257, 7), (385, 7), (513, 8),
    (769, 8), (1025, 9), (1537, 9), (2049, 10), (3073, 10), (4097, 11), (6145, 11),
    (8193, 12), (12289, 12), (16385, 13), (24577, 13)]

/-- Read the value a table symbol stands for; symbols outside the table are faulty. -/
def readTabled (table : Array (Nat × Nat)) (symbol : Nat) : BitReader Nat :=
  match table[symbol]? with
  | none => fault
  | some (least, extra) => return least + (← readBits extra)

def readItem (codes : BlockCodes) : BitReader Item := do
  let symbol ← codes.literals.read
  if symbol < 256 then return .literal (UInt8.ofNat symbol)
  else if symbol = 256 then return .endOfBlock
  else
    let length ← readTabled lengthTable (symbol - 257)
    let distance ← readTabled distanceTable (← codes.distances.read)
    return .copy length distance

/-- Append a copy of earlier output, byte by byte, so that it may overlap itself. -/
def copyBack (output : Array UInt8) (distance : Nat) : (length : Nat) → Array UInt8
  | 0 => output
  | length + 1 =>
      copyBack (output.push (output.getD (output.size - distance) 0)) distance length

/-- Read the items of a compressed block. Every item takes a bit at least, so as many
rounds as there are bits are enough. -/
def inflateItems (codes : BlockCodes) :
    (rounds : Nat) → Array UInt8 → BitSource → Array UInt8 × Except Stop BitSource
  | 0, output, _ => (output, .error .exhausted)
  | rounds + 1, output, source =>
      match readItem codes source with
      | .error stop => (output, .error stop)
      | .ok (.literal byte, source) => inflateItems codes rounds (output.push byte) source
      | .ok (.endOfBlock, source) => (output, .ok source)
      | .ok (.copy length distance, source) =>
          if distance ≤ output.size then
            inflateItems codes rounds (copyBack output distance length) source
          else (output, .error .faulty)

/-- The code lengths of the fixed code for literals and lengths. -/
def fixedLiteralLengths : List Nat :=
  List.replicate 144 8 ++ List.replicate 112 9 ++ List.replicate 24 7 ++ List.replicate 8 8

/-- The fixed codes. The two last literal and distance symbols have a code, but no
meaning. -/
def fixedCodes : BitReader BlockCodes :=
  match PrefixCode.ofLengths fixedLiteralLengths false,
      PrefixCode.ofLengths (List.replicate 32 5) false with
  | some literals, some distances => return ⟨literals, distances⟩
  | _, _ => fault

/-- The order in which the lengths of the code for code lengths are written. -/
def codeLengthOrder : List Nat :=
  [16, 17, 18, 0, 8, 7, 9, 6, 10, 5, 11, 4, 12, 3, 13, 2, 14, 1, 15]

def readTriples : (count : Nat) → BitReader (List Nat)
  | 0 => return []
  | count + 1 => do
      let first ← readBits 3
      return first :: (← readTriples count)

/-- Read code lengths, some of them as repetitions, until there are `total`. Those read
so far are given last first. -/
def readCodeLengths (code : PrefixCode) (total : Nat) :
    (rounds : Nat) → List Nat → BitReader (List Nat)
  | 0, _ => fault
  | rounds + 1, lengths => do
      if total ≤ lengths.length then return lengths.reverse
      let symbol ← code.read
      let repeated (length : Nat) (count : Nat) : BitReader (List Nat) :=
        if total < lengths.length + count then fault
        else readCodeLengths code total rounds (List.replicate count length ++ lengths)
      if symbol < 16 then readCodeLengths code total rounds (symbol :: lengths)
      else if symbol = 16 then
        let count := 3 + (← readBits 2)
        match lengths with
        | [] => fault
        | last :: _ => repeated last count
      else if symbol = 17 then repeated 0 (3 + (← readBits 3))
      else repeated 0 (11 + (← readBits 7))

def readCodes : BitReader BlockCodes := do
  let literalCount := 257 + (← readBits 5)
  let distanceCount := 1 + (← readBits 5)
  let lengthCount := 4 + (← readBits 4)
  if 286 < literalCount || 30 < distanceCount then fault
  let triples ← readTriples lengthCount
  let written := codeLengthOrder.zip triples
  let lengthLengths := (List.range 19).map fun symbol => (written.lookup symbol).getD 0
  match PrefixCode.ofLengths lengthLengths false with
  | none => fault
  | some code =>
      let total := literalCount + distanceCount
      let lengths ← readCodeLengths code total (total + 1) []
      if lengths.getD 256 0 = 0 then fault
      match PrefixCode.ofLengths (lengths.take literalCount) true,
          PrefixCode.ofLengths (lengths.drop literalCount) true with
      | some literals, some distances => return ⟨literals, distances⟩
      | _, _ => fault

/-- Read the length of a stored block, which is written twice, once complemented. -/
def readStoredLength : BitReader Nat := do
  alignToByte
  let length ← readBits 16
  let complement ← readBits 16
  if length + complement = 0xffff then return length else fault

def inflateStored (output : Array UInt8) (source : BitSource) :
    Array UInt8 × Except Stop BitSource :=
  match readStoredLength source with
  | .error stop => (output, .error stop)
  | .ok (length, source) =>
      let stored := source.rest.take length
      (output ++ stored,
        if stored.length = length then .ok ⟨[], source.rest.drop length⟩
        else .error .exhausted)

/-- Decompress a block with the codes that a reader finds for it. -/
def inflateCoded (readCodes : BitReader BlockCodes) (output : Array UInt8)
    (source : BitSource) : Array UInt8 × Except Stop BitSource :=
  match readCodes source with
  | .error stop => (output, .error stop)
  | .ok (codes, source) => inflateItems codes (source.size + 1) output source

def inflateBlock (kind : Nat) (output : Array UInt8) (source : BitSource) :
    Array UInt8 × Except Stop BitSource :=
  if kind = 0 then inflateStored output source
  else if kind = 1 then inflateCoded fixedCodes output source
  else if kind = 2 then inflateCoded readCodes output source
  else (output, .error .faulty)

/-- Read the three bits in front of a block: whether it is the last, and its kind. -/
def readBlockHeader : BitReader (Bool × Nat) := do
  let last ← readBit
  let kind ← readBits 2
  return (last, kind)

/-- Decompress blocks until the last one. Every block takes three bits at least. -/
def inflateBlocks : (rounds : Nat) → Array UInt8 → BitSource → Array UInt8 × Ending
  | 0, output, _ => (output, .exhausted)
  | rounds + 1, output, source =>
      match readBlockHeader source with
      | .error .exhausted => (output, .exhausted)
      | .error .faulty => (output, .faulty)
      | .ok ((last, kind), source) =>
          match inflateBlock kind output source with
          | (output, .error .exhausted) => (output, .exhausted)
          | (output, .error .faulty) => (output, .faulty)
          | (output, .ok source) =>
              if last then (output, .finished source.rest)
              else inflateBlocks rounds output source

def inflate (data : Bytes) : Bytes × Ending :=
  let source := BitSource.ofBytes data
  let (output, ending) := inflateBlocks (source.size + 1) #[] source
  (output.toList, ending)

/-- What a reader of decompressed data gets. Output is handed over only once the symbol
behind it has been looked at, so the last byte before a fault is lost with it. -/
def delivered (output : Bytes) : Ending → Bytes
  | .faulty => output.dropLast
  | _ => output

end SelfUpdate.Deflate
