import Mathlib.Data.List.TakeWhile
import SelfUpdate.Archive.Tar.Header
import SelfUpdate.Proofs.Bytes.Field
import SelfUpdate.Proofs.Text.Ascii

/-!
# Numbers in tar headers

A number in a header is written in octal digits, with zeros in front, and ends in NULs or
spaces.  Whichever of the two they are, the field is read back as the number.
-/

namespace SelfUpdate.Tar

/-- The octal digit of a number below eight, as a character. -/
def octalDigit (number : Nat) : Char :=
  Char.ofNat (0x30 + number % 8)

/-- The lowest octal digits of a number, the greatest first. -/
def octalDigits : (width : Nat) → Nat → List Char
  | 0, _ => []
  | width + 1, number => octalDigits width (number / 8) ++ [octalDigit number]

/-- The bytes that may end a number. -/
def EndsNumber (ending : Bytes) : Prop :=
  ∀ byte ∈ ending, byte = 0x00 ∨ byte = 0x20

def numberField (size : Nat) (ending : Bytes) (number : Nat) : Bytes :=
  (octalDigits (size - ending.length) number).map Text.asciiByte ++ ending

theorem length_octalDigits (width number : Nat) : (octalDigits width number).length = width := by
  induction width generalizing number with
  | zero => rfl
  | succ width ih => simp [octalDigits, ih]

theorem length_numberField {size : Nat} {ending : Bytes} (short : ending.length ≤ size)
    (number : Nat) : (numberField size ending number).length = size := by
  rw [numberField, List.length_append, List.length_map, length_octalDigits]
  omega

/-- What is known of a digit need only be known of eight. -/
theorem octalDigit_induction {motive : Char → Prop}
    (digits : ∀ value < 8, motive (Char.ofNat (0x30 + value))) (number : Nat) :
    motive (octalDigit number) :=
  digits _ (Nat.mod_lt _ (by decide))

theorem octalDigits_induction {motive : Char → Prop}
    (digits : ∀ value < 8, motive (Char.ofNat (0x30 + value))) (width number : Nat) :
    ∀ digit ∈ octalDigits width number, motive digit := by
  induction width generalizing number with
  | zero => simp [octalDigits]
  | succ width ih =>
      intro digit member
      rcases List.mem_append.mp member with front | last
      · exact ih _ digit front
      · rw [List.mem_singleton.mp last]
        exact octalDigit_induction digits number

theorem isAscii_octalDigits (width number : Nat) : Text.IsAscii (octalDigits width number) :=
  octalDigits_induction (by decide) width number

theorem digitValue_octalDigit (number : Nat) :
    Text.digitValue (octalDigit number) = some (number % 8) := by
  have values : ∀ value < 8, Text.digitValue (Char.ofNat (0x30 + value)) = some value := by decide
  exact values _ (Nat.mod_lt _ (by decide))

theorem numeral?_octalDigits {width number : Nat} (fits : number < 8 ^ width)
    (filled : width ≠ 0) : Text.numeral? 8 (octalDigits width number) = some number := by
  have notEmpty : (octalDigits width number).isEmpty = false := by
    rw [List.isEmpty_eq_false_iff_exists_mem, ← List.length_pos_iff_exists_mem, length_octalDigits]
    omega
  rw [Text.numeral?, if_neg (by simp [notEmpty])]
  clear notEmpty filled
  induction width generalizing number with
  | zero =>
      obtain rfl : number = 0 := by simpa using fits
      rfl
  | succ width ih =>
      have higher : number / 8 < 8 ^ width := by
        rw [Nat.pow_succ] at fits
        exact Nat.div_lt_of_lt_mul (by rwa [Nat.mul_comm])
      have small : number % 8 < 8 := Nat.mod_lt _ (by decide)
      have whole : number / 8 * 8 + number % 8 = number := by omega
      rw [octalDigits, List.foldlM_append, ih higher]
      simp [digitValue_octalDigit, small, whole]

/-- Blank characters behind a text without any are trimmed. -/
theorem trim_append_spaces {text : List Char}
    (filled : ∀ character ∈ text, Text.isBlank character = false) (spaces : Nat) :
    Text.trim (text ++ List.replicate spaces ' ') = text := by
  have dropped (behind : List Char) : (List.replicate spaces ' ' ++ behind).dropWhile
      Text.isBlank = behind.dropWhile Text.isBlank :=
    List.dropWhile_append_of_pos fun _ member => (List.mem_replicate.mp member).2 ▸ rfl
  have kept : text.reverse.dropWhile Text.isBlank = text.reverse := by
    cases last : text.reverse with
    | nil => rfl
    | cons character front =>
        have member : character ∈ text := List.mem_reverse.mp (last ▸ List.mem_cons_self)
        simp [filled character member]
  cases text with
  | nil =>
      have nothing : (List.replicate spaces ' ').dropWhile Text.isBlank = [] := by
        rw [← List.append_nil (List.replicate spaces ' '), dropped, List.dropWhile_nil]
      rw [Text.trim, Text.trimFront, Text.trimFront, List.nil_append, nothing]
      rfl
  | cons character text =>
      rw [Text.trim, Text.trimFront, Text.trimFront, List.cons_append,
        List.dropWhile_cons_of_neg (by simp [filled character]), ← List.cons_append,
        List.reverse_append, List.reverse_replicate, dropped, kept, List.reverse_reverse]

theorem upTo_ending {ending : Bytes} (ends : EndsNumber ending) :
    ∃ spaces, ending.upTo 0 = (List.replicate spaces ' ').map Text.asciiByte := by
  refine ⟨(ending.upTo 0).length, ?_⟩
  rw [List.map_replicate]
  refine List.eq_replicate_iff.mpr ⟨rfl, fun byte member => ?_⟩
  have notNul : byte ≠ 0 := by simpa using (List.mem_takeWhile_imp member)
  exact (ends byte ((List.takeWhile_sublist _).subset member)).resolve_left notNul

theorem octalField_numberField {size number : Nat} {ending : Bytes} (ends : EndsNumber ending)
    (fits : number < 8 ^ (size - ending.length)) (small : number < UInt64.size)
    (longer : ending.length < size) :
    octalField (numberField size ending number) = some number := by
  obtain ⟨spaces, blank⟩ := upTo_ending ends
  have noNul : ∀ digit ∈ octalDigits (size - ending.length) number, Text.asciiByte digit ≠ 0 :=
    octalDigits_induction (by decide) _ _
  have noSign : ∀ digit ∈ octalDigits (size - ending.length) number, digit ≠ '+' :=
    octalDigits_induction (by decide) _ _
  have filled : ∀ digit ∈ octalDigits (size - ending.length) number,
      Text.isBlank digit = false :=
    octalDigits_induction (by decide) _ _
  have isAscii := isAscii_octalDigits (size - ending.length) number
  have value : Text.numeral? 8 (octalDigits (size - ending.length) number) = some number :=
    numeral?_octalDigits fits (by omega)
  rw [numberField]
  -- From here on the digits are known by these facts alone.
  generalize octalDigits (size - ending.length) number = digits at *
  have text : Bytes.upTo 0 (digits.map Text.asciiByte ++ ending) =
      (digits ++ List.replicate spaces ' ').map Text.asciiByte := by
    rw [Bytes.upTo_append, blank, List.map_append]
    simpa using noNul
  have ascii : Text.IsAscii (digits ++ List.replicate spaces ' ') := by
    intro character member
    rcases List.mem_append.mp member with digit | space
    · exact isAscii character digit
    · rw [(List.mem_replicate.mp space).2]
      decide
  rw [octalField, text, Text.decodeUtf8?_of_isAscii ascii]
  simp only [Option.bind_eq_bind, Option.bind_some, String.toList_ofList,
    trim_append_spaces filled]
  split
  · exact absurd rfl (noSign '+' List.mem_cons_self)
  · simp [value, small]

/-- A field with digits in it does not begin as one that holds a big-endian number. -/
theorem getD_numberField_and {size : Nat} {ending : Bytes} (longer : ending.length < size)
    (number : Nat) : (numberField size ending number).getD 0 0 &&& 0x80 = 0 := by
  have low : ∀ digit ∈ octalDigits (size - ending.length) number,
      Text.asciiByte digit &&& 0x80 = 0 :=
    octalDigits_induction (by decide) _ _
  have length := length_octalDigits (size - ending.length) number
  rw [numberField]
  cases digits : octalDigits (size - ending.length) number with
  | nil =>
      rw [digits, List.length_nil] at length
      omega
  | cons digit rest => exact low digit (digits ▸ List.mem_cons_self)

theorem upTo_zeros (count : Nat) : Bytes.upTo 0 (List.replicate count 0) = [] := by
  cases count <;> rfl

end SelfUpdate.Tar
