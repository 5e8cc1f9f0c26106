import Mathlib.Algebra.Order.Ring.Nat
import SelfUpdate.Bytes.Basic

/-!
# Writing numbers and finding fields

A number is written as a row of bytes, the least first, and read back if it fits into
them.  What stands at an offset of a byte string is found there if the bytes in front of
it are as many as the offset says.  A number that is read, whatever the bytes are, is not
greater than as many bytes can spell.
-/

namespace SelfUpdate.Bytes

/-- A number as a row of bytes, the least first. -/
def ofNumber : (size : Nat) → Nat → Bytes
  | 0, _ => []
  | size + 1, number => UInt8.ofNat number :: ofNumber size (number / 256)

@[simp]
theorem length_ofNumber (size number : Nat) : (ofNumber size number).length = size := by
  induction size generalizing number with
  | zero => rfl
  | succ size ih => simp [ofNumber, ih]

theorem littleEndian_ofNumber {size number : Nat} (fits : number < 256 ^ size) :
    littleEndian (ofNumber size number) = number := by
  induction size generalizing number with
  | zero =>
      have zero : number = 0 := by simpa using fits
      rw [zero, ofNumber, littleEndian]
  | succ size ih =>
      have higher : number / 256 < 256 ^ size := by
        rw [Nat.pow_succ] at fits
        exact Nat.div_lt_of_lt_mul (by rwa [Nat.mul_comm])
      rw [ofNumber, littleEndian, ih higher, UInt8.toNat_ofNat']
      omega

theorem littleEndian_lt (bytes : Bytes) : littleEndian bytes < 256 ^ bytes.length := by
  induction bytes with
  | nil => decide
  | cons byte bytes ih =>
      have digit := byte.toNat_lt
      rw [littleEndian, List.length_cons, Nat.pow_succ]
      omega

theorem littleEndian_lt_of_length_le {bytes : Bytes} {size : Nat} (short : bytes.length ≤ size) :
    littleEndian bytes < 256 ^ size :=
  Nat.lt_of_lt_of_le (littleEndian_lt bytes) (Nat.pow_le_pow_right (by decide) short)

theorem number?_lt {bytes : Bytes} {offset count number : Nat}
    (found : bytes.number? offset count = some number) : number < 256 ^ count := by
  obtain ⟨part, sliced, rfl⟩ := Option.map_eq_some_iff.mp found
  simp only [slice?, Option.ite_none_right_eq_some, Option.some.injEq] at sliced
  obtain ⟨whole, rfl⟩ := sliced
  exact littleEndian_lt_of_length_le (Nat.le_of_eq whole)

section Field

variable {front field back bytes : Bytes} {offset size : Nat}

/-- What stands behind as many bytes as an offset says is found at that offset. -/
theorem take_drop_append (before : front.length = offset) (whole : field.length = size) :
    ((front ++ (field ++ back)).drop offset).take size = field := by
  subst before whole
  simp

theorem slice?_of_drop (found : bytes.drop offset = field ++ back)
    (whole : field.length = size) : bytes.slice? offset size = some field := by
  subst whole
  simp [slice?, found]

theorem number?_of_drop {number : Nat} (found : bytes.drop offset = ofNumber size number ++ back)
    (fits : number < 256 ^ size) : bytes.number? offset size = some number := by
  rw [number?, slice?_of_drop found (length_ofNumber size number), Option.map_some,
    littleEndian_ofNumber fits]

theorem drop_add_of_drop (found : bytes.drop offset = field ++ back)
    (whole : field.length = size) : bytes.drop (offset + size) = back := by
  subst whole
  rw [← List.drop_drop, found, List.drop_left]

/-- A part of a slice is a slice. -/
theorem slice?_of_slice? {start count : Nat} (found : bytes.slice? offset size = some field)
    (inside : start + count ≤ size) :
    bytes.slice? (offset + start) count = some ((field.drop start).take count) := by
  simp only [slice?, Option.ite_none_right_eq_some, Option.some.injEq] at found ⊢
  obtain ⟨whole, rfl⟩ := found
  have same : ((bytes.drop (offset + start)).take count) =
      (((bytes.drop offset).take size).drop start).take count := by
    rw [← List.drop_drop, List.drop_take, List.take_take, Nat.min_eq_left (by omega)]
  refine ⟨?_, same⟩
  rw [same, List.length_take, List.length_drop, whole]
  omega

end Field

/-- The bytes in front of a stop are those before its first place. -/
theorem upTo_append {stop : UInt8} {front : Bytes} (absent : stop ∉ front) (back : Bytes) :
    upTo stop (front ++ back) = front ++ upTo stop back := by
  unfold upTo
  rw [List.takeWhile_append_of_pos]
  intro byte member
  simpa using fun same : byte = stop => absent (same ▸ member)

end SelfUpdate.Bytes
