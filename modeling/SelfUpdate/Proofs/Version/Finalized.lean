import SelfUpdate.Proofs.Text.Segments
import SelfUpdate.Version.Precedence

/-!
# Reading finalized versions back

The finalized text of a version is the text of a version itself: of the one with the same
numbers, without pre-release and without build metadata.  Reading it gives that version.

The two are the same release only if there was no pre-release in the first place.  A
version with a pre-release precedes the one that its finalized text names.
-/

namespace SelfUpdate.Version

/-- The version that the finalized text names. -/
def released (version : Version) : Version :=
  ⟨version.major, version.minor, version.patch, [], []⟩

section Numbers

/-- A number other than zero does not begin with the digit zero. -/
theorem head?_toDigits {number : Nat} (positive : 0 < number) :
    (Nat.toDigits 10 number).head? ≠ some '0' := by
  induction number using Nat.strong_induction_on with
  | _ number ih =>
      by_cases small : number < 10
      · rw [Nat.toDigits_of_lt_base small]
        have digits : ∀ digit < 10, 0 < digit → [Nat.digitChar digit].head? ≠ some '0' := by
          decide
        exact digits number small positive
      · have tenLe : 10 ≤ number := by omega
        have front := ih (number / 10) (by omega) (by omega)
        have filled : Nat.toDigits 10 (number / 10) ≠ [] := Nat.toDigits_ne_nil
        rwa [Nat.toDigits_of_base_le (by decide) tenLe, List.head?_append,
          List.head?_eq_some_head filled, Option.some_or, ← List.head?_eq_some_head filled]

theorem hasLeadingZero_toDigits (number : Nat) :
    hasLeadingZero (Nat.toDigits 10 number) = false := by
  rcases Nat.eq_zero_or_pos number with rfl | positive
  · rfl
  · unfold hasLeadingZero
    split
    · next digits =>
        have front := head?_toDigits positive
        simp [digits] at front
    · rfl

theorem isDigit_of_mem_decimal {number : UInt64} {character : Char}
    (member : character ∈ decimal number) : character.isDigit = true :=
  Nat.isDigit_of_mem_toDigits (by decide) (by decide) member

/-- A number is read up to the first character that is no digit. -/
theorem readNumber_decimal (position : Position) (number : UInt64) {rest : List Char}
    (stops : ∀ character ∈ rest.head?, character.isDigit = false) :
    readNumber position (decimal number ++ rest) = .ok (number, rest) := by
  have inside : ∀ character ∈ decimal number, character.isDigit = true :=
    fun _ => isDigit_of_mem_decimal
  have taken : (decimal number ++ rest).takeWhile Char.isDigit = decimal number :=
    takeWhile_append_of_stops inside stops
  have dropped : (decimal number ++ rest).dropWhile Char.isDigit = rest :=
    dropWhile_append_of_stops inside stops
  unfold readNumber
  simp only [taken, dropped]
  split
  · next empty =>
      have filled : decimal number ≠ [] := Nat.toDigits_ne_nil
      simp [filled] at empty
  · simp [decimal, hasLeadingZero_toDigits number.toNat, number.toNat_lt]

end Numbers

theorem ofChars_core (version : Version) : ofChars version.core = .ok version.released := by
  have filled : version.core.isEmpty = false := by
    simp [core]
  have dotStops (rest : List Char) : ∀ character ∈ ('.' :: rest).head?,
      character.isDigit = false := by
    simp
  have major := readNumber_decimal .major version.major
    (dotStops (decimal version.minor ++ '.' :: decimal version.patch))
  have minor := readNumber_decimal .minor version.minor (dotStops (decimal version.patch))
  have nothingLeft : ∀ character ∈ ([] : List Char).head?, character.isDigit = false := by
    simp
  have patch : readNumber .patch (decimal version.patch) = .ok (version.patch, []) := by
    simpa using readNumber_decimal .patch version.patch nothingLeft
  have coreEq : version.core =
      decimal version.major ++ '.' :: (decimal version.minor ++ '.' :: decimal version.patch) := by
    simp [core]
  unfold ofChars
  rw [filled, coreEq]
  simp [major, minor, patch, readDot, readSuffix, readEnd, bind, Except.bind, pure, Except.pure]
  rfl

theorem core_inj {left right : Version} :
    left.core = right.core ↔
      left.major = right.major ∧ left.minor = right.minor ∧ left.patch = right.patch := by
  constructor
  · intro same
    have read : (Except.ok left.released : Except ParseError Version) =
        .ok right.released := by
      rw [← ofChars_core, same, ofChars_core]
    simpa [released] using read
  · rintro ⟨major, minor, patch⟩
    rw [core, core, major, minor, patch]

/-- Finalized texts are the same if the three numbers are. -/
theorem finalized_inj {left right : Version} :
    left.finalized = right.finalized ↔
      left.major = right.major ∧ left.minor = right.minor ∧ left.patch = right.patch := by
  rw [finalized, finalized, String.ofList_inj, core_inj]

theorem slash_not_mem_core (version : Version) : '/' ∉ version.core := by
  have noDigit {number : UInt64} : '/' ∉ decimal number :=
    fun member => absurd (isDigit_of_mem_decimal member) (by decide)
  simp [core, noDigit]

/-- A finalized text names the release. -/
theorem parse_finalized (version : Version) : parse version.finalized = .ok version.released := by
  rw [parse, finalized, String.toList_ofList, ofChars_core]

theorem precedence_released (version : Version) :
    precedence version.released version = comparePreRelease [] version.preRelease := by
  simp [precedence, released, Ordering.then]

theorem sameRelease_released_iff (version : Version) :
    sameRelease version.released version = true ↔ version.preRelease = [] := by
  unfold sameRelease
  rw [precedence_released]
  cases version.preRelease <;> simp [comparePreRelease]

end SelfUpdate.Version
