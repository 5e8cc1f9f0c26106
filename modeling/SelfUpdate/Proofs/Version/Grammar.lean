import SelfUpdate.Proofs.Result
import SelfUpdate.Proofs.Version.Finalized

/-!
# How versions are spelled

The grammar of version texts says which texts name a version, without saying how one is
read.  Each step of reading from left to right takes off as much of the text as the grammar
has at that place, and leaves what cannot belong to it.
-/

namespace SelfUpdate.Version

section Grammar

/-- The letters, digits and the hyphen. -/
def InAlphabet (character : Char) : Prop :=
  ('A' ≤ character ∧ character ≤ 'Z') ∨ ('a' ≤ character ∧ character ≤ 'z') ∨
    ('0' ≤ character ∧ character ≤ '9') ∨ character = '-'

def AreDigits (text : List Char) : Prop :=
  ∀ character ∈ text, '0' ≤ character ∧ character ≤ '9'

/-- Zero, or digits of which the first is not zero, with a value of at most 64 bits. -/
def SpellsNumber (text : List Char) : Prop :=
  (text = ['0'] ∨ text ≠ [] ∧ AreDigits text ∧ text.head? ≠ some '0') ∧
    Nat.ofDigitChars 10 text 0 < UInt64.size

def IsIdentifier (identifier : Identifier) : Prop :=
  identifier ≠ [] ∧ ∀ character ∈ identifier, InAlphabet character

/-- Several digits do not begin with zero. -/
def IsPreReleaseIdentifier (identifier : Identifier) : Prop :=
  IsIdentifier identifier ∧
    (AreDigits identifier → 1 < identifier.length → identifier.head? ≠ some '0')

/-- Nothing, or a mark in front of identifiers that are joined by dots. -/
inductive SpellsSuffix (mark : Char) (permitted : Identifier → Prop) : List Char → Prop where
  | absent : SpellsSuffix mark permitted []
  | present {identifiers : List Identifier} (filled : identifiers ≠ [])
      (each : ∀ identifier ∈ identifiers, permitted identifier) :
      SpellsSuffix mark permitted (mark :: ['.'].intercalate identifiers)

/-- The texts of versions. -/
def SpellsVersion (text : List Char) : Prop :=
  ∃ major minor patch preRelease build,
    text = major ++ '.' :: minor ++ '.' :: patch ++ preRelease ++ build ∧
    SpellsNumber major ∧ SpellsNumber minor ∧ SpellsNumber patch ∧
    SpellsSuffix '-' IsPreReleaseIdentifier preRelease ∧ SpellsSuffix '+' IsIdentifier build

/-- A version whose identifiers are such as its text may hold. -/
structure WellFormed (version : Version) : Prop where
  preRelease : ∀ identifier ∈ version.preRelease, IsPreReleaseIdentifier identifier
  build : ∀ identifier ∈ version.build, IsIdentifier identifier

end Grammar

section Characters

variable {character : Char} {text : List Char} {identifier : Identifier}

theorem isDigit_iff : character.isDigit = true ↔ '0' ≤ character ∧ character ≤ '9' := by
  simp [Char.isDigit, Char.le_def]

theorem isUpper_iff : character.isUpper = true ↔ 'A' ≤ character ∧ character ≤ 'Z' :=
  decide_eq_true_iff

theorem isLower_iff : character.isLower = true ↔ 'a' ≤ character ∧ character ≤ 'z' :=
  Bool.and_eq_true_iff.trans (and_congr decide_eq_true_iff decide_eq_true_iff)

theorem isIdentifierCharacter_iff :
    isIdentifierCharacter character = true ↔ InAlphabet character := by
  change (character.isUpper || character.isLower || character.isDigit || character == '-') = true
    ↔ InAlphabet character
  simp only [Bool.or_eq_true, isUpper_iff, isLower_iff, isDigit_iff, beq_iff_eq, InAlphabet,
    or_assoc]

theorem isNumeric_iff : isNumeric identifier = true ↔ AreDigits identifier := by
  simp [isNumeric, AreDigits, isDigit_iff]

theorem hasLeadingZero_iff :
    hasLeadingZero text = true ↔ 1 < text.length ∧ text.head? = some '0' := by
  rcases text with _ | ⟨first, _ | ⟨second, others⟩⟩
  · simp [hasLeadingZero]
  · simp [hasLeadingZero]
  · by_cases zero : first = '0' <;> simp [hasLeadingZero, zero]

end Characters

section Numbers

variable {text rest : List Char} {position : Position} {number : UInt64}

theorem exists_digitChar_of_isDigit {character : Char} (isDigit : character.isDigit = true) :
    ∃ digit < 10, character = Nat.digitChar digit := by
  obtain ⟨least, greatest⟩ : 48 ≤ character.toNat ∧ character.toNat ≤ 57 :=
    isDigit_iff.mp isDigit
  refine ⟨character.toNat - 48, by omega, Char.toNat_inj.mp ?_⟩
  rw [Nat.toNat_digitChar_of_lt_ten (by omega)]
  omega

/-- Reading on behind a number other than zero appends the digits to its own. -/
theorem toDigits_ofDigitChars_of_pos {start : Nat} (positive : 0 < start)
    (digits : ∀ digit ∈ text, digit.isDigit = true) :
    Nat.toDigits 10 (Nat.ofDigitChars 10 text start) = Nat.toDigits 10 start ++ text := by
  -- What has been read stays positive, so every further digit is one digit more.
  induction text generalizing start with
  | nil => simp
  | cons first others ih =>
      obtain ⟨isDigit, rest⟩ := List.forall_mem_cons.mp digits
      obtain ⟨digit, small, rfl⟩ := exists_digitChar_of_isDigit isDigit
      rw [Nat.ofDigitChars_cons_digitChar_of_lt_ten small, ih (by omega) rest,
        ← Nat.toDigits_append_toDigits (by decide) positive small, Nat.toDigits_of_lt_base small]
      simp

/-- Digits without a leading zero are the digits of their value. -/
theorem toDigits_ofDigitChars (filled : text ≠ [])
    (digits : ∀ digit ∈ text, digit.isDigit = true) (begins : hasLeadingZero text = false) :
    Nat.toDigits 10 (Nat.ofDigitChars 10 text 0) = text := by
  cases text with
  | nil => exact absurd rfl filled
  | cons first others =>
      obtain ⟨isDigit, rest⟩ := List.forall_mem_cons.mp digits
      obtain ⟨digit, small, rfl⟩ := exists_digitChar_of_isDigit isDigit
      rw [Nat.ofDigitChars_cons_digitChar_of_lt_ten small]
      rcases Nat.eq_zero_or_pos digit with rfl | positive
      · cases others with
        | nil => rfl
        | cons second others => exact absurd begins (Bool.noConfusion : true = false → False)
      · rw [Nat.mul_zero, Nat.zero_add, toDigits_ofDigitChars_of_pos positive rest,
          Nat.toDigits_of_lt_base small]
        rfl

theorem areDigits_decimal (number : UInt64) : AreDigits (decimal number) :=
  fun _ member => isDigit_iff.mp (isDigit_of_mem_decimal member)

theorem decimal_ne_nil (number : UInt64) : decimal number ≠ [] :=
  Nat.toDigits_ne_nil

theorem spellsNumber_iff : SpellsNumber text ↔ ∃ number, text = decimal number := by
  constructor
  · rintro ⟨spelled, small⟩
    refine ⟨UInt64.ofNatLT _ small, ?_⟩
    rw [decimal, UInt64.toNat_ofNatLT]
    rcases spelled with rfl | ⟨filled, digits, begins⟩
    · rfl
    · have noZero : hasLeadingZero text = false := by
        rw [Bool.eq_false_iff, ne_eq, hasLeadingZero_iff]
        exact fun zero => begins zero.2
      exact (toDigits_ofDigitChars filled (fun _ member => isDigit_iff.mpr (digits _ member))
        noZero).symm
  · rintro ⟨number, rfl⟩
    constructor
    · rcases Nat.eq_zero_or_pos number.toNat with zero | positive
      · left
        rw [decimal, zero]
        rfl
      · exact Or.inr ⟨decimal_ne_nil number, areDigits_decimal number, head?_toDigits positive⟩
    · rw [decimal, Nat.ofDigitChars_ten_toDigits]
      exact number.toNat_lt

/-- What is read as a number are its digits, as many as there are. -/
theorem readNumber_eq_ok_iff :
    readNumber position text = .ok (number, rest) ↔
      text = decimal number ++ rest ∧ ∀ character ∈ rest.head?, character.isDigit = false := by
  constructor
  · intro done
    cases text with
    | nil => simp [readNumber] at done
    | cons first others =>
        have digits : ∀ digit ∈ (first :: others).takeWhile Char.isDigit, digit.isDigit = true :=
          fun _ => List.mem_takeWhile_imp
        simp only [readNumber] at done
        split_ifs at done with noDigit zero fits
        obtain ⟨rfl, rfl⟩ : _ = number ∧ _ = rest := by simpa using done
        have spelled := toDigits_ofDigitChars (by simpa using noDigit) digits (by simpa using zero)
        refine ⟨?_, stops_dropWhile (first :: others)⟩
        rw [decimal, UInt64.toNat_ofNatLT, spelled, List.takeWhile_append_dropWhile]
  · rintro ⟨rfl, stops⟩
    exact readNumber_decimal position number stops

theorem readDot_eq_ok_iff : readDot position text = .ok rest ↔ text = '.' :: rest := by
  constructor
  · intro done
    unfold readDot at done
    split at done
    · simp at done
    · next rest' => rw [Except.ok.inj done]
    · simp at done
  · rintro rfl
    rfl

end Numbers

section Identifiers

variable {text rest : List Char} {identifier : Identifier} {identifiers : List Identifier}
  {mark : Char} {position before after : Position}

/-- The identifiers that may stand at a position. -/
def Permitted : Position → Identifier → Prop
  | .preRelease, identifier => IsPreReleaseIdentifier identifier
  | _, identifier => IsIdentifier identifier

theorem Permitted.isIdentifier (permitted : Permitted position identifier) :
    IsIdentifier identifier := by
  cases position with
  | preRelease => exact permitted.1
  | _ => exact permitted

theorem isPreReleaseIdentifier_iff :
    IsPreReleaseIdentifier identifier ↔ IsIdentifier identifier ∧
      ¬(isNumeric identifier = true ∧ hasLeadingZero identifier = true) := by
  simp only [IsPreReleaseIdentifier, isNumeric_iff, hasLeadingZero_iff, not_and, ne_eq]

/-- Identifiers with the right characters are permitted if no fault is found with them. -/
theorem identifierFault_eq_none_iff
    (inside : ∀ character ∈ identifier, InAlphabet character) :
    identifierFault position identifier = none ↔ Permitted position identifier := by
  have isIdentifier : IsIdentifier identifier ↔ identifier ≠ [] := and_iff_left inside
  unfold identifierFault
  cases position with
  | preRelease =>
      simp only [Permitted, isPreReleaseIdentifier_iff, isIdentifier, List.isEmpty_iff, true_and]
      split_ifs with void zero
      · simp [void]
      · simp [void, zero]
      · simpa [void] using zero
  | _ => simp [Permitted, isIdentifier]

/-- The characters of identifiers and of the dots between them. -/
def isDottedCharacter (character : Char) : Bool :=
  isIdentifierCharacter character || character == '.'

theorem isDottedCharacter_iff {character : Char} :
    isDottedCharacter character = true ↔ InAlphabet character ∨ character = '.' := by
  simp [isDottedCharacter, isIdentifierCharacter_iff]

theorem isDottedCharacter_of_mem_dotted
    (each : ∀ identifier ∈ identifiers, IsIdentifier identifier) :
    ∀ character ∈ dotted identifiers, isDottedCharacter character = true := by
  intro character member
  rw [isDottedCharacter_iff]
  rcases mem_of_mem_intercalate member with same | ⟨identifier, among, inside⟩
  · exact Or.inr same
  · exact Or.inl ((each identifier among).2 character inside)

theorem readIdentifiers_eq (position : Position) (text : List Char) :
    readIdentifiers position text =
      let identifiers := (text.takeWhile isDottedCharacter).splitOn '.'
      match identifiers.findSome? (identifierFault position) with
      | some fault => .error fault
      | none => .ok (identifiers, text.dropWhile isDottedCharacter) :=
  rfl

/-- The parts between dots hold no dots. -/
theorem inAlphabet_of_mem_splitOn
    (member : identifier ∈ (text.takeWhile isDottedCharacter).splitOn '.') :
    ∀ character ∈ identifier, InAlphabet character := by
  intro character inside
  have joined : character ∈ dotted _ := mem_intercalate_of_mem member inside
  rw [dotted, List.intercalate_splitOn] at joined
  have belongs := isDottedCharacter_iff.mp (List.mem_takeWhile_imp joined)
  exact belongs.resolve_right fun dot => not_mem_of_mem_splitOn member (dot ▸ inside)

theorem splitOn_dotted (filled : identifiers ≠ [])
    (each : ∀ identifier ∈ identifiers, IsIdentifier identifier) :
    (dotted identifiers).splitOn '.' = identifiers := by
  apply List.splitOn_intercalate
  · intro identifier member dot
    exact absurd ((each identifier member).2 '.' dot) (by simp [InAlphabet])
  · exact filled

theorem readIdentifiers_eq_ok_iff :
    readIdentifiers position text = .ok (identifiers, rest) ↔
      identifiers ≠ [] ∧ (∀ identifier ∈ identifiers, Permitted position identifier) ∧
        text = dotted identifiers ++ rest ∧
        ∀ character ∈ rest.head?, isDottedCharacter character = false := by
  constructor
  · intro done
    rw [readIdentifiers_eq] at done
    dsimp only at done
    split at done
    · simp at done
    · next faultless =>
      obtain ⟨rfl, rfl⟩ : _ = identifiers ∧ _ = rest := by simpa using done
      refine ⟨List.splitOn_ne_nil _ _, ?_, ?_, stops_dropWhile text⟩
      · intro identifier member
        rw [← identifierFault_eq_none_iff (inAlphabet_of_mem_splitOn member)]
        exact List.findSome?_eq_none_iff.mp faultless identifier member
      · rw [dotted, List.intercalate_splitOn, List.takeWhile_append_dropWhile]
  · rintro ⟨filled, permitted, rfl, stops⟩
    have each : ∀ identifier ∈ identifiers, IsIdentifier identifier :=
      fun identifier member => (permitted identifier member).isIdentifier
    have belongs := isDottedCharacter_of_mem_dotted each
    have faultless : identifiers.findSome? (identifierFault position) = none := by
      rw [List.findSome?_eq_none_iff]
      intro identifier member
      exact (identifierFault_eq_none_iff (each identifier member).2).mpr
        (permitted identifier member)
    rw [readIdentifiers_eq, takeWhile_append_of_stops belongs stops,
      dropWhile_append_of_stops belongs stops]
    simp only [splitOn_dotted filled each, faultless]

/-- What may stand behind identifiers: nothing that would belong to them, and no mark where
there are none. -/
def Ends (mark : Char) : List Identifier → List Char → Prop
  | [], rest => rest.head? ≠ some mark
  | _, rest => ∀ character ∈ rest.head?, isDottedCharacter character = false

theorem suffix_of_ne_nil (filled : identifiers ≠ []) :
    suffix mark identifiers = mark :: dotted identifiers := by
  cases identifiers with
  | nil => exact absurd rfl filled
  | cons first others => rfl

theorem ends_iff_of_ne_nil (filled : identifiers ≠ []) :
    Ends mark identifiers rest ↔
      ∀ character ∈ rest.head?, isDottedCharacter character = false := by
  cases identifiers with
  | nil => exact absurd rfl filled
  | cons first others => rfl

theorem readSuffix_eq_ok_iff :
    readSuffix mark position before text = .ok (identifiers, after, rest) ↔
      (∀ identifier ∈ identifiers, Permitted position identifier) ∧
        after = (if identifiers = [] then before else position) ∧
        text = suffix mark identifiers ++ rest ∧ Ends mark identifiers rest := by
  constructor
  · intro done
    cases text with
    | nil =>
        obtain ⟨rfl, rfl, rfl⟩ : [] = identifiers ∧ before = after ∧ [] = rest := by
          simpa [readSuffix] using done
        exact ⟨by simp, rfl, rfl, by simp [Ends]⟩
    | cons first others =>
        unfold readSuffix at done
        dsimp only at done
        split_ifs at done with marked
        · subst marked
          split at done
          · simp at done
          · next found behind read =>
            obtain ⟨rfl, rfl, rfl⟩ : found = identifiers ∧ position = after ∧ behind = rest := by
              simpa using done
            obtain ⟨filled, permitted, rfl, stops⟩ := readIdentifiers_eq_ok_iff.mp read
            refine ⟨permitted, (if_neg filled).symm, ?_, (ends_iff_of_ne_nil filled).mpr stops⟩
            rw [suffix_of_ne_nil filled, List.cons_append]
        · obtain ⟨rfl, rfl, rfl⟩ : [] = identifiers ∧ before = after ∧ first :: others = rest := by
            simpa using done
          exact ⟨by simp, rfl, rfl, by simpa [Ends] using marked⟩
  · rintro ⟨permitted, rfl, rfl, ends⟩
    cases identifiers with
    | nil =>
        cases rest with
        | nil => rfl
        | cons first others =>
            have unmarked : first ≠ mark := by simpa [Ends] using ends
            simp [readSuffix, unmarked]
    | cons identifier others =>
        have read := readIdentifiers_eq_ok_iff.mpr ⟨List.cons_ne_nil _ _, permitted, rfl, ends⟩
        simp [readSuffix, suffix, read]

theorem readEnd_eq_ok_iff {nothing : Unit} : readEnd position text = .ok nothing ↔ text = [] := by
  cases text <;> simp [readEnd]

theorem eq_of_mem_head?_suffix {character : Char}
    (member : character ∈ (suffix mark identifiers).head?) : character = mark := by
  cases identifiers with
  | nil => simp at member
  | cons first others => simpa [suffix, eq_comm] using member

/-- Where pre-release identifiers end, build identifiers may begin. -/
theorem ends_suffix (first others : List Identifier) : Ends '-' first (suffix '+' others) := by
  cases first with
  | nil =>
      intro marked
      exact absurd (eq_of_mem_head?_suffix marked) (by decide)
  | cons identifier identifiers =>
      intro character member
      rw [eq_of_mem_head?_suffix member]
      decide

theorem ends_nil (identifiers : List Identifier) : Ends mark identifiers [] := by
  cases identifiers <;> simp [Ends]

theorem spellsSuffix_iff {mark : Char} {permitted : Identifier → Prop} :
    SpellsSuffix mark permitted text ↔
      ∃ identifiers, (∀ identifier ∈ identifiers, permitted identifier) ∧
        text = suffix mark identifiers := by
  constructor
  · rintro (_ | ⟨filled, each⟩)
    · exact ⟨[], by simp, rfl⟩
    · exact ⟨_, each, (suffix_of_ne_nil filled).symm⟩
  · rintro ⟨identifiers, each, rfl⟩
    cases identifiers with
    | nil => exact .absent
    | cons first others => exact .present (List.cons_ne_nil first others) each

end Identifiers

end SelfUpdate.Version
