import SelfUpdate.Archive.Tar.Member
import SelfUpdate.Proofs.Archive.Tar.Number

/-!
# How a tar archive is written

A member is written as a header block, and its data behind it, filled up with zeros to
whole blocks.  The header holds the name, the size of the data, the kind of the member, and
a checksum over all its bytes.  Whatever else it holds, reading the header gives these back.
-/

namespace SelfUpdate.Tar

/-- What a member can be: a file, with the older or the newer mark of one, or something
without data of its own. -/
inductive Substance where
  | file (older : Bool) (content : Bytes)
  | directory
  | symbolicLink
  | hardLink

namespace Substance

def typeByte : Substance → UInt8
  | .file older _ => if older then 0x00 else 0x30
  | .directory => 0x35
  | .symbolicLink => 0x32
  | .hardLink => 0x31

def content : Substance → Bytes
  | .file _ content => content
  | _ => []

def isFile : Substance → Bool
  | .file _ _ => true
  | _ => false

end Substance

def posixFamily : Bytes := [0x75, 0x73, 0x74, 0x61, 0x72, 0x00, 0x30, 0x30]

/-- The parts of a header that do not matter for what is extracted, each of its own size,
and how the numbers in the header end.  The POSIX family has a part for the beginning of a path
that is too long for the name. -/
structure Details where
  owner : Bytes
  time : Bytes
  linkTarget : Bytes
  family : Bytes
  ownerNames : Bytes
  beginning : Bytes
  unused : Bytes
  sizeEnding : Bytes
  sumEnding : Bytes
  length_owner : owner.length = 24
  length_time : time.length = 12
  length_linkTarget : linkTarget.length = 100
  length_family : family.length = 8
  length_ownerNames : ownerNames.length = 80
  length_beginning : beginning.length = 155
  length_unused : unused.length = 12
  noBeginning : family = posixFamily → beginning.upTo 0 = []
  ends_size : EndsNumber sizeEnding
  length_sizeEnding : sizeEnding.length ≤ 1
  ends_sum : EndsNumber sumEnding
  length_sumEnding : sumEnding.length ≤ 2

/-- A member to be written.  Its size must have a place in the header. -/
structure Source where
  name : Bytes
  substance : Substance
  details : Details
  name_length : name.length ≤ 100
  name_plain : 0 ∉ name
  content_length : substance.content.length < Nat.pow 8 11

def sumOf (bytes : Bytes) : Nat :=
  (bytes.map UInt8.toNat).sum

namespace Source

variable (source : Source)

/-- The header in front of the checksum. -/
def front : Bytes :=
  source.name ++ List.replicate (100 - source.name.length) 0 ++ source.details.owner ++
    numberField 12 source.details.sizeEnding source.substance.content.length ++
    source.details.time

/-- The header behind the checksum. -/
def back : Bytes :=
  source.substance.typeByte :: source.details.linkTarget ++ source.details.family ++
    source.details.ownerNames ++ source.details.beginning ++ source.details.unused

/-- The checksum: the sum of all bytes of the header, with spaces in the place of the
checksum. -/
def checksum : Nat :=
  sumOf (source.front ++ List.replicate 8 0x20 ++ source.back)

def header : Bytes :=
  source.front ++ numberField 8 source.details.sumEnding source.checksum ++ source.back

/-- The data of the member, filled up to whole blocks. -/
def data : Bytes :=
  source.substance.content ++
    List.replicate ((blockSize - source.substance.content.length % blockSize) % blockSize) 0

def layout : Bytes :=
  source.header ++ source.data

@[simp]
theorem length_front : source.front.length = 148 := by
  have short := source.name_length
  have ending := source.details.length_sizeEnding
  have size : (numberField 12 source.details.sizeEnding
      source.substance.content.length).length = 12 :=
    length_numberField (Nat.le_trans ending (by decide)) _
  simp only [front, List.length_append, List.length_replicate, size, source.details.length_owner,
    source.details.length_time]
  omega

@[simp]
theorem length_back : source.back.length = 356 := by
  simp only [back, List.length_append, List.length_cons, source.details.length_linkTarget,
    source.details.length_family, source.details.length_ownerNames,
    source.details.length_beginning, source.details.length_unused]

theorem length_sum : (numberField 8 source.details.sumEnding source.checksum).length = 8 :=
  length_numberField (Nat.le_trans source.details.length_sumEnding (by decide)) _

@[simp]
theorem length_header : source.header.length = blockSize := by
  simp only [header, List.length_append, length_front, length_sum, length_back]
  rfl

section Fields

/-- A field of a written header is what stands behind as many bytes as its offset says. -/
theorem field_of_header (front back : Bytes) {field : Bytes} {offset size : Nat}
    (parts : source.header = front ++ (field ++ back)) (before : front.length = offset)
    (whole : field.length = size) : (Header.mk source.header).field offset size = field := by
  rw [Header.field, parts, Bytes.take_drop_append before whole]

theorem field_front : (Header.mk source.header).field 0 148 = source.front :=
  source.field_of_header [] _ (by rw [header, List.append_assoc]; rfl) rfl
    source.length_front

theorem field_sum : (Header.mk source.header).field 148 8 =
    numberField 8 source.details.sumEnding source.checksum :=
  source.field_of_header _ _ (by rw [header, List.append_assoc]) source.length_front
    source.length_sum

theorem field_back : (Header.mk source.header).field 156 356 = source.back := by
  refine source.field_of_header _ [] (by rw [header, List.append_nil]) ?_
    source.length_back
  rw [List.length_append, length_front, length_sum]

theorem field_name : (Header.mk source.header).field 0 100 =
    source.name ++ List.replicate (100 - source.name.length) 0 := by
  refine source.field_of_header [] _ (by simp [header, Source.front]; rfl) rfl ?_
  have short := source.name_length
  rw [List.length_append, List.length_replicate]
  omega

theorem field_size : (Header.mk source.header).field 124 12 =
    numberField 12 source.details.sizeEnding source.substance.content.length := by
  refine source.field_of_header
    (source.name ++ List.replicate (100 - source.name.length) 0 ++ source.details.owner) _
    (by simp [header, Source.front]; rfl) ?_
    (length_numberField (Nat.le_trans source.details.length_sizeEnding (by decide)) _)
  have short := source.name_length
  simp only [List.length_append, List.length_replicate, source.details.length_owner]
  omega

theorem field_family :
    (Header.mk source.header).field 257 8 = source.details.family := by
  refine source.field_of_header
    (source.front ++ numberField 8 source.details.sumEnding source.checksum ++
      source.substance.typeByte :: source.details.linkTarget) _
    (by simp [header, Source.back]; rfl) ?_ source.details.length_family
  simp [length_sum, source.details.length_linkTarget]

theorem field_beginning :
    (Header.mk source.header).field 345 155 = source.details.beginning := by
  refine source.field_of_header
    (source.front ++ numberField 8 source.details.sumEnding source.checksum ++
      source.substance.typeByte :: source.details.linkTarget ++ source.details.family ++
        source.details.ownerNames) _
    (by simp [header, Source.back]; rfl) ?_ source.details.length_beginning
  simp [length_sum, source.details.length_linkTarget, source.details.length_family,
    source.details.length_ownerNames]

theorem typeByte_header :
    (Header.mk source.header).typeByte = source.substance.typeByte := by
  have before : (source.front ++
      numberField 8 source.details.sumEnding source.checksum).length = 156 := by
    rw [List.length_append, length_front, length_sum]
  rw [Header.typeByte, header, back, List.getD_eq_getElem?_getD, ← before]
  simp

end Fields

section Reading

theorem sumOf_append (front back : Bytes) : sumOf (front ++ back) = sumOf front + sumOf back := by
  simp [sumOf]

theorem sumOf_le (bytes : Bytes) : sumOf bytes ≤ 255 * bytes.length := by
  induction bytes with
  | nil => simp [sumOf]
  | cons byte bytes ih =>
      have small := byte.toNat_lt
      simp only [sumOf, List.map_cons, List.sum_cons, List.length_cons] at ih ⊢
      omega

theorem byteSum_header : (Header.mk source.header).byteSum = source.checksum := by
  have spaces : sumOf (List.replicate 8 0x20) = 8 * 32 := by decide
  have further (bytes : Bytes) (start : Nat) :
      (bytes.map UInt8.toNat).foldr (· + ·) start = sumOf bytes + start := by
    induction bytes with
    | nil => simp [sumOf]
    | cons byte bytes ih =>
        simp only [sumOf, List.map_cons, List.foldr_cons, List.sum_cons] at ih ⊢
        omega
  rw [Header.byteSum, field_front, field_back, further, checksum, sumOf_append, sumOf_append,
    sumOf_append, spaces]
  omega

theorem checksum_lt : source.checksum < Nat.pow 8 6 := by
  have least := sumOf_le source.front
  have further := sumOf_le source.back
  have spaces : sumOf (List.replicate 8 0x20) = 256 := by decide
  rw [length_front] at least
  rw [length_back] at further
  rw [checksum, sumOf_append, sumOf_append, spaces]
  exact Nat.lt_of_le_of_lt (m := 255 * 148 + 256 + 255 * 356) (by omega) (by decide)

theorem isIntact_header : (Header.mk source.header).isIntact = true := by
  have short := source.details.length_sumEnding
  have fits : source.checksum < 8 ^ (8 - source.details.sumEnding.length) :=
    Nat.lt_of_lt_of_le source.checksum_lt (Nat.pow_le_pow_right (by decide) (by omega))
  have small : source.checksum < UInt64.size :=
    Nat.lt_of_lt_of_le source.checksum_lt (by decide)
  rw [Header.isIntact, field_sum, byteSum_header,
    octalField_numberField source.details.ends_sum fits small (by omega)]
  exact beq_self_eq_true _

theorem size_header :
    (Header.mk source.header).size = some source.substance.content.length := by
  have short := source.details.length_sizeEnding
  have fits : source.substance.content.length < 8 ^ (12 - source.details.sizeEnding.length) :=
    Nat.lt_of_lt_of_le source.content_length (Nat.pow_le_pow_right (by decide) (by omega))
  have small : source.substance.content.length < UInt64.size :=
    Nat.lt_of_lt_of_le source.content_length (by decide)
  have value := octalField_numberField source.details.ends_size fits small (by omega)
  have octal : (numberField 12 source.details.sizeEnding
      source.substance.content.length).getD 0 0 &&& 0x80 = 0 :=
    getD_numberField_and (by omega) _
  rw [Header.size, field_size]
  simp only [octal, value]
  rfl

theorem path_header : (Header.mk source.header).path = source.name := by
  have name : Bytes.upTo 0 ((Header.mk source.header).field 0 100) = source.name := by
    rw [field_name, Bytes.upTo_append source.name_plain, upTo_zeros, List.append_nil]
  have noBeginning : (Header.mk source.header).isPosix = true →
      Bytes.upTo 0 ((Header.mk source.header).field 345 155) = [] := by
    intro posix
    rw [Header.isPosix, field_family, beq_iff_eq] at posix
    rw [field_beginning, source.details.noBeginning posix]
  unfold Header.path
  dsimp only
  split
  · next continued =>
      rw [noBeginning (Bool.and_eq_true_iff.mp continued).1, name]
      rfl
  · exact name

theorem kind_header :
    (Header.mk source.header).kind = if source.substance.isFile then .file else .other := by
  unfold Header.kind
  rw [typeByte_header]
  cases source.substance with
  | file older content => cases older <;> rfl
  | directory => rfl
  | symbolicLink => rfl
  | hardLink => rfl

end Reading

end Source

end SelfUpdate.Tar
