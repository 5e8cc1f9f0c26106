import Mathlib.Data.Nat.Digits.Defs
import SelfUpdate.Text.Numeral

/-!
# What decimal numerals spell

A row of characters is a decimal numeral if there is at least one and all are decimal digits.
It spells the number that has these digits.
-/

namespace SelfUpdate.Text

theorem digitValue_digitChar {digit : Nat} (small : digit < 10) :
    digitValue (Nat.digitChar digit) = some digit := by
  have each : ∀ digit < 10, digitValue (Nat.digitChar digit) = some digit := by decide
  exact each digit small

/-- Letters have values from ten on. -/
theorem eq_digitChar_of_digitValue {character : Char} {digit : Nat}
    (value : digitValue character = some digit) (small : digit < 10) :
    character = Nat.digitChar digit := by
  unfold digitValue at value
  split at value
  · next decimal =>
    obtain ⟨least, greatest⟩ : 48 ≤ character.toNat ∧ character.toNat ≤ 57 := decimal
    obtain rfl : character.toNat - 48 = digit := Option.some.inj value
    apply Char.toNat_inj.mp
    rw [Nat.toNat_digitChar_of_lt_ten small]
    omega
  · split at value
    · obtain rfl := Option.some.inj value
      omega
    · split at value
      · obtain rfl := Option.some.inj value
        omega
      · simp at value

/-- Take up a decimal digit behind those that were read before. -/
def readDigit (number : Nat) (character : Char) : Option Nat := do
  let value ← digitValue character
  if value < 10 then some (number * 10 + value) else none

theorem readDigit_eq_some_iff {start number : Nat} {character : Char} :
    readDigit start character = some number ↔
      ∃ digit < 10, character = Nat.digitChar digit ∧ number = start * 10 + digit := by
  constructor
  · intro done
    obtain ⟨digit, value, done⟩ := Option.bind_eq_some_iff.mp done
    obtain ⟨small, same⟩ := Option.ite_none_right_eq_some.mp done
    exact ⟨digit, small, eq_digitChar_of_digitValue value small, (Option.some.inj same).symm⟩
  · rintro ⟨digit, small, rfl, rfl⟩
    simp [readDigit, digitValue_digitChar small, small]

theorem foldlM_readDigit_eq_some_iff {characters : List Char} {start number : Nat} :
    characters.foldlM readDigit start = some number ↔
      ∃ digits : List Nat, (∀ digit ∈ digits, digit < 10) ∧
        characters = digits.map Nat.digitChar ∧
        digits.foldl (fun number digit => number * 10 + digit) start = number := by
  induction characters generalizing start with
  | nil => simp
  | cons character characters ih =>
      rw [List.foldlM_cons, Option.bind_eq_bind, Option.bind_eq_some_iff]
      constructor
      · rintro ⟨next, first, later⟩
        obtain ⟨digit, small, rfl, rfl⟩ := readDigit_eq_some_iff.mp first
        obtain ⟨digits, rest, rfl, rfl⟩ := ih.mp later
        exact ⟨digit :: digits, List.forall_mem_cons.mpr ⟨small, rest⟩, rfl, rfl⟩
      · rintro ⟨digits, small, spelled, rfl⟩
        cases digits with
        | nil => simp at spelled
        | cons digit digits =>
            obtain ⟨rfl, rfl⟩ := List.cons.inj spelled
            obtain ⟨first, rest⟩ := List.forall_mem_cons.mp small
            exact ⟨_, readDigit_eq_some_iff.mpr ⟨digit, first, rfl, rfl⟩,
              ih.mpr ⟨digits, rest, rfl, rfl⟩⟩

theorem ofDigits_reverse (digits : List Nat) :
    Nat.ofDigits 10 digits.reverse = digits.foldl (fun number digit => number * 10 + digit) 0 := by
  rw [Nat.ofDigits_eq_foldr, List.foldr_reverse]
  congr 1
  funext number digit
  simp [Nat.add_comm, Nat.mul_comm]

theorem numeral?_ten_eq_some_iff {characters : List Char} {number : Nat} :
    numeral? 10 characters = some number ↔
      ∃ digits : List Nat, digits ≠ [] ∧ (∀ digit ∈ digits, digit < 10) ∧
        characters = digits.map Nat.digitChar ∧ Nat.ofDigits 10 digits.reverse = number := by
  have read : numeral? 10 characters =
      if characters = [] then none else characters.foldlM readDigit 0 := by
    rw [numeral?]
    exact if_congr List.isEmpty_iff rfl rfl
  simp only [read, Option.ite_none_left_eq_some, foldlM_readDigit_eq_some_iff, ofDigits_reverse]
  constructor
  · rintro ⟨filled, digits, small, rfl, spelled⟩
    exact ⟨digits, by simpa using filled, small, rfl, spelled⟩
  · rintro ⟨digits, filled, small, rfl, spelled⟩
    exact ⟨by simpa using filled, digits, small, rfl, spelled⟩

end SelfUpdate.Text
