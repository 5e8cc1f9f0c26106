import SelfUpdate.Proofs.Version.Grammar

/-!
# Texts of versions

Reading accepts exactly the texts of the grammar.  A version that was read is written as the
text that it was read from, so no version has two texts.
-/

namespace SelfUpdate.Version

section Versions

variable {text : List Char} {version : Version}

theorem of_ofChars (done : ofChars text = .ok version) :
    version.WellFormed ∧ text = version.render := by
  cases text with
  | nil => simp [ofChars, bind, Except.bind] at done
  | cons first others =>
      simp only [ofChars, List.isEmpty_cons, Bool.false_eq_true, if_false, bind_eq_ok_iff,
        Prod.exists, readNumber_eq_ok_iff, readDot_eq_ok_iff, readSuffix_eq_ok_iff,
        readEnd_eq_ok_iff] at done
      obtain ⟨major, _, ⟨spelled, -⟩, _, rfl, minor, _, ⟨rfl, -⟩, _, rfl, patch, _, ⟨rfl, -⟩,
        preRelease, _, _, ⟨preReleases, -, rfl, -⟩, build, _, _, ⟨builds, -, rfl, -⟩,
        _, rfl, made⟩ := done
      obtain rfl := Except.ok.inj made
      refine ⟨⟨preReleases, builds⟩, ?_⟩
      rw [spelled]
      simp [render, core]

theorem ofChars_render (wellFormed : version.WellFormed) :
    ofChars version.render = .ok version := by
  have filled : version.render.isEmpty = false := by
    simp [render, core]
  -- Behind the patch number comes a mark or nothing, and neither is one more digit.
  have patchStops : ∀ character ∈ (suffix '-' version.preRelease ++
      suffix '+' version.build).head?, character.isDigit = false := by
    intro character member
    rw [List.head?_append, Option.mem_def, Option.or_eq_some_iff] at member
    rcases member with hyphen | ⟨-, plus⟩
    · rw [eq_of_mem_head?_suffix hyphen]
      rfl
    · rw [eq_of_mem_head?_suffix plus]
      rfl
  simp only [ofChars, filled, Bool.false_eq_true, if_false, bind_eq_ok_iff,
    Prod.exists, readNumber_eq_ok_iff, readDot_eq_ok_iff, readSuffix_eq_ok_iff,
    readEnd_eq_ok_iff]
  refine ⟨version.major, _, ⟨?_, ?_⟩, _, rfl, version.minor, _, ⟨rfl, ?_⟩, _, rfl,
    version.patch, _, ⟨rfl, patchStops⟩,
    version.preRelease, _, _, ⟨wellFormed.preRelease, rfl, rfl, ends_suffix _ _⟩,
    version.build, _, _, ⟨wellFormed.build, rfl, (List.append_nil _).symm, ends_nil _⟩,
    (), rfl, rfl⟩
  · simp [render, core]
  · simp
  · simp

/-- Reading succeeds on the texts of well-formed versions, and on no others. -/
theorem ofChars_eq_ok_iff :
    ofChars text = .ok version ↔ version.WellFormed ∧ text = version.render := by
  constructor
  · exact of_ofChars
  · rintro ⟨wellFormed, rfl⟩
    exact ofChars_render wellFormed

/-- The texts of the grammar are those of the well-formed versions. -/
theorem spellsVersion_iff :
    SpellsVersion text ↔ ∃ version : Version, version.WellFormed ∧ text = version.render := by
  constructor
  · rintro ⟨_, _, _, _, _, rfl, first, second, third, hyphened, plussed⟩
    obtain ⟨major, rfl⟩ := spellsNumber_iff.mp first
    obtain ⟨minor, rfl⟩ := spellsNumber_iff.mp second
    obtain ⟨patch, rfl⟩ := spellsNumber_iff.mp third
    obtain ⟨preRelease, preReleases, rfl⟩ := spellsSuffix_iff.mp hyphened
    obtain ⟨build, builds, rfl⟩ := spellsSuffix_iff.mp plussed
    exact ⟨⟨major, minor, patch, preRelease, build⟩, ⟨preReleases, builds⟩, by simp [render, core]⟩
  · rintro ⟨version, wellFormed, rfl⟩
    refine ⟨decimal version.major, decimal version.minor, decimal version.patch,
      suffix '-' version.preRelease, suffix '+' version.build, by simp [render, core],
      spellsNumber_iff.mpr ⟨_, rfl⟩, spellsNumber_iff.mpr ⟨_, rfl⟩, spellsNumber_iff.mpr ⟨_, rfl⟩,
      spellsSuffix_iff.mpr ⟨_, wellFormed.preRelease, rfl⟩,
      spellsSuffix_iff.mpr ⟨_, wellFormed.build, rfl⟩⟩

theorem parse_eq_ok_iff {text : String} :
    parse text = .ok version ↔ version.WellFormed ∧ version.display = text := by
  rw [parse, ofChars_eq_ok_iff, display, ← String.toList_inj, String.toList_ofList, eq_comm]

section Characters

variable {character : Char}

theorem isDottedCharacter_of_isDigit (isDigit : character.isDigit = true) :
    isDottedCharacter character = true :=
  isDottedCharacter_iff.mpr (Or.inl (Or.inr (Or.inr (Or.inl (isDigit_iff.mp isDigit)))))

theorem isDottedCharacter_of_mem_core (member : character ∈ version.core) :
    isDottedCharacter character = true := by
  have digit {number : UInt64} (inside : character ∈ decimal number) :
      isDottedCharacter character = true :=
    isDottedCharacter_of_isDigit (isDigit_of_mem_decimal inside)
  simp only [core, List.mem_append, List.mem_cons] at member
  rcases member with (major | rfl | minor) | rfl | patch
  · exact digit major
  · rfl
  · exact digit minor
  · rfl
  · exact digit patch

theorem isDottedCharacter_or_of_mem_suffix {mark : Char} {identifiers : List Identifier}
    (each : ∀ identifier ∈ identifiers, IsIdentifier identifier)
    (member : character ∈ suffix mark identifiers) :
    isDottedCharacter character = true ∨ character = mark := by
  cases identifiers with
  | nil => simp at member
  | cons first others =>
      rcases List.mem_cons.mp member with same | inside
      · exact Or.inr same
      · exact Or.inl (isDottedCharacter_of_mem_dotted each character inside)

/-- No plus sign stands in front of the build metadata. -/
theorem WellFormed.isDottedCharacter_of_mem (wellFormed : version.WellFormed)
    (member : character ∈ version.core ++ suffix '-' version.preRelease) :
    isDottedCharacter character = true := by
  rcases List.mem_append.mp member with inCore | inSuffix
  · exact isDottedCharacter_of_mem_core inCore
  · rcases isDottedCharacter_or_of_mem_suffix
      (fun identifier among => (wellFormed.preRelease identifier among).1) inSuffix with
      belongs | rfl
    · exact belongs
    · rfl

theorem WellFormed.isDottedCharacter_or_of_mem_render (wellFormed : version.WellFormed)
    (member : character ∈ version.render) :
    isDottedCharacter character = true ∨ character = '+' := by
  rcases List.mem_append.mp member with front | inSuffix
  · exact Or.inl (wellFormed.isDottedCharacter_of_mem front)
  · exact isDottedCharacter_or_of_mem_suffix wellFormed.build inSuffix

end Characters

/-- Texts are read as versions exactly if the grammar has them.  A version that was read is
written as its text again, so it is read from no other text. -/
theorem parse_iff_spelled (text : String) :
    ((∃ version, parse text = .ok version) ↔ SpellsVersion text.toList) ∧
      (∀ version, parse text = .ok version →
        version.display = text ∧ parse version.display = .ok version ∧
          ∀ other, parse other = .ok version → other = text) ∧
      ofString text = parse text := by
  refine ⟨?_, ?_, rfl⟩
  · rw [spellsVersion_iff]
    exact exists_congr fun version => ofChars_eq_ok_iff
  · intro version parsed
    have written : version.display = text := (parse_eq_ok_iff.mp parsed).2
    refine ⟨written, by rw [written, parsed], ?_⟩
    intro other alike
    rw [← written, ← (parse_eq_ok_iff.mp alike).2]

end Versions

section Sample

/-- A version with the greatest number, digits among its pre-release identifiers, and zeros
in front of a number of its build metadata. -/
def sampleText : String := "18446744073709551615.0.10-rc-1.0.2x+001.--"

def sampleVersion : Version :=
  ⟨18446744073709551615, 0, 10, ["rc-1".toList, "0".toList, "2x".toList],
    ["001".toList, "--".toList]⟩

theorem parse_sampleText : parse sampleText = .ok sampleVersion := by
  decide +kernel

theorem sampleText_iff_spelled :
    parse sampleText = .ok sampleVersion ∧ SpellsVersion sampleText.toList ∧
      ∀ other, parse other = .ok sampleVersion → other = sampleText := by
  obtain ⟨accepted, written, -⟩ := parse_iff_spelled sampleText
  exact ⟨parse_sampleText, accepted.mp ⟨_, parse_sampleText⟩,
    (written sampleVersion parse_sampleText).2.2⟩

example : parse "18446744073709551616.0.10" = .error (.tooLarge .major) := by
  decide +kernel

end Sample

end SelfUpdate.Version
