/-!
# Numerals

A numeral is a row of digits in a base of at most sixteen, the greatest first.
Letters serve as digits above nine and may be of either case.
-/

namespace SelfUpdate.Text

def digitValue (character : Char) : Option Nat :=
  if '0' ≤ character ∧ character ≤ '9' then some (character.toNat - '0'.toNat)
  else if 'a' ≤ character ∧ character ≤ 'f' then some (character.toNat - 'a'.toNat + 10)
  else if 'A' ≤ character ∧ character ≤ 'F' then some (character.toNat - 'A'.toNat + 10)
  else none

/-- The number that a row of digits spells. There must be a digit, and every digit must
be below the base. -/
def numeral? (base : Nat) (digits : List Char) : Option Nat :=
  if digits.isEmpty then none
  else
    digits.foldlM (fun number digit => do
      let value ← digitValue digit
      if value < base then some (number * base + value) else none) 0

/-- A number in lower-case hexadecimal, without leading zeros. -/
def hexadecimal (number : Nat) : List Char :=
  Nat.toDigits 16 number

/-- A byte as two upper-case hexadecimal digits. -/
def byteDigits (byte : UInt8) : List Char :=
  let digits := (hexadecimal byte.toNat).map Char.toUpper
  List.replicate (2 - digits.length) '0' ++ digits

end SelfUpdate.Text
