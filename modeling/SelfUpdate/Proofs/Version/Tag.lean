import SelfUpdate.Proofs.Text.Trimming
import SelfUpdate.Proofs.Version.Spelling

/-!
# Versions in tags

The text of a version has no blank characters and does not begin with the letter `v`.  So a tag
may have blank characters around it and one `v` in front, and is still read as the version.  No
other tags are read, because behind these two liberties reading is strict.
-/

namespace SelfUpdate.Version

section Tags

variable {version : Version} {character : Char} {front back : List Char}

theorem isBlank_eq_false_of_inAlphabet (inside : InAlphabet character) :
    Text.isBlank character = false := by
  have graphic {first last : Char} (least : first ≤ character) (greatest : character ≤ last)
      (begins : 0x20 < first.toNat) (ends : last.toNat < 0x7f) :
      Text.isBlank character = false :=
    Text.isBlank_eq_false_of_graphic (Nat.lt_of_lt_of_le begins least)
      (Nat.lt_of_le_of_lt greatest ends)
  rcases inside with ⟨least, greatest⟩ | ⟨least, greatest⟩ | ⟨least, greatest⟩ | rfl
  · exact graphic least greatest (by decide) (by decide)
  · exact graphic least greatest (by decide) (by decide)
  · exact graphic least greatest (by decide) (by decide)
  · decide

/-- No character of a version's text is blank. -/
theorem WellFormed.isBlank_eq_false_of_mem (wellFormed : version.WellFormed)
    (member : character ∈ version.render) : Text.isBlank character = false := by
  rcases wellFormed.isDottedCharacter_or_of_mem_render member with belongs | rfl
  · rcases isDottedCharacter_iff.mp belongs with inside | rfl
    · exact isBlank_eq_false_of_inAlphabet inside
    · decide
  · decide

/-- The text of a version begins with a digit. -/
theorem exists_render_eq_cons (version : Version) :
    ∃ digit rest, version.render = digit :: rest ∧ digit.isDigit = true := by
  obtain ⟨digit, digits, spelled⟩ := List.exists_cons_of_ne_nil (decimal_ne_nil version.major)
  have isDigit : digit.isDigit = true :=
    isDigit_of_mem_decimal (spelled ▸ List.mem_cons_self : digit ∈ decimal version.major)
  have front : version.render = decimal version.major ++ ('.' :: (decimal version.minor ++
      '.' :: (decimal version.patch ++
        (suffix '-' version.preRelease ++ suffix '+' version.build)))) := by
    simp [render, core]
  rw [front, spelled]
  exact ⟨digit, _, rfl, isDigit⟩

theorem render_ne_nil (version : Version) : version.render ≠ [] := by
  obtain ⟨digit, rest, begins, -⟩ := version.exists_render_eq_cons
  simp [begins]

theorem ne_empty_of_parse {text : String} (parsed : parse text = .ok version) : text ≠ "" := by
  obtain ⟨-, rfl⟩ := parse_eq_ok_iff.mp parsed
  intro void
  exact version.render_ne_nil (by simpa [display] using congrArg String.toList void)

/-- What may stand in front of the text of a version in a tag. -/
def IsTagMark (mark : List Char) : Prop :=
  mark = [] ∨ mark = ['v']

theorem tagBody_of_marked {tag body : List Char} (marked : Text.trim tag = 'v' :: body) :
    tagBody tag = body := by
  rw [tagBody, marked]
  rfl

theorem tagBody_of_unmarked {tag : List Char} (unmarked : (Text.trim tag).head? ≠ some 'v') :
    tagBody tag = Text.trim tag := by
  unfold tagBody
  split
  · next marked => simp [marked] at unmarked
  · rfl

/-- The text of a version has no mark of its own. -/
theorem head?_render_ne (version : Version) : version.render.head? ≠ some 'v' := by
  obtain ⟨digit, rest, rendered, isDigit⟩ := version.exists_render_eq_cons
  rw [rendered, List.head?_cons]
  rintro ⟨⟩
  exact absurd isDigit (by decide)

theorem tagBody_eq_render_iff {tag : List Char} :
    tagBody tag = version.render ↔
      ∃ mark, IsTagMark mark ∧ Text.trim tag = mark ++ version.render := by
  constructor
  · intro found
    by_cases begins : (Text.trim tag).head? = some 'v'
    · obtain ⟨body, marked⟩ := List.head?_eq_some_iff.mp begins
      rw [tagBody_of_marked marked] at found
      exact ⟨['v'], Or.inr rfl, by rw [marked, found]; rfl⟩
    · rw [tagBody_of_unmarked begins] at found
      exact ⟨[], Or.inl rfl, found⟩
  · rintro ⟨mark, rfl | rfl, trimmed⟩
    · rw [List.nil_append] at trimmed
      rw [tagBody_of_unmarked (trimmed ▸ version.head?_render_ne), trimmed]
    · exact tagBody_of_marked trimmed

theorem fromTag_eq_ok_iff {tag : String} :
    fromTag tag = .ok version ↔ version.WellFormed ∧
      ∃ mark, IsTagMark mark ∧ Text.trim tag.toList = mark ++ version.render := by
  rw [fromTag, ofChars_eq_ok_iff, tagBody_eq_render_iff]

/-- The text of a version is found in a tag behind a mark and between blank characters. -/
theorem fromTag_of_padded (wellFormed : version.WellFormed) (frontBlank : Text.AreBlank front)
    (backBlank : Text.AreBlank back) {mark : List Char} (marked : IsTagMark mark) {tag : String}
    (padded : tag.toList = front ++ (mark ++ version.render) ++ back) :
    fromTag tag = .ok version := by
  have begins : ∀ character ∈ (mark ++ version.render).head?,
      Text.isBlank character = false := by
    rcases marked with rfl | rfl
    · exact fun _ member => wellFormed.isBlank_eq_false_of_mem (List.mem_of_head? member)
    · simp only [List.cons_append, List.head?_cons, Option.mem_some_iff]
      rintro _ rfl
      decide
  have ends : ∀ character ∈ (mark ++ version.render).getLast?,
      Text.isBlank character = false := by
    rw [List.getLast?_append, List.getLast?_eq_some_getLast version.render_ne_nil, Option.some_or]
    intro character member
    obtain rfl := Option.mem_some_iff.mp member
    exact wellFormed.isBlank_eq_false_of_mem (List.getLast_mem version.render_ne_nil)
  refine fromTag_eq_ok_iff.mpr ⟨wellFormed, mark, marked, ?_⟩
  rw [padded, Text.trim_append_append frontBlank backBlank begins ends]

/-- A version does not begin with anything but a digit. -/
theorem ofChars_cons_of_not_digit {first : Char} (rest : List Char)
    (notDigit : first.isDigit = false) :
    ofChars (first :: rest) = .error (.unexpectedCharacter .major first) := by
  have unread : readNumber .major (first :: rest) =
      .error (.unexpectedCharacter .major first) := by
    simp [readNumber, notDigit]
  rw [ofChars, unread]
  rfl

section Trimmed

variable {tag : String}

theorem fromTag_of_marked {body : List Char} (marked : Text.trim tag.toList = 'v' :: body) :
    fromTag tag = ofChars body := by
  rw [fromTag, tagBody_of_marked marked]

theorem fromTag_of_unmarked (unmarked : (Text.trim tag.toList).head? ≠ some 'v') :
    fromTag tag = ofChars (Text.trim tag.toList) := by
  rw [fromTag, tagBody_of_unmarked unmarked]

/-- A tag with a blank character inside names no version. -/
theorem fromTag_of_blank {character : Char} (member : character ∈ Text.trim tag.toList)
    (blank : Text.isBlank character = true) : ∃ reason, fromTag tag = .error reason := by
  cases read : fromTag tag with
  | error reason => exact ⟨reason, rfl⟩
  | ok version =>
      obtain ⟨wellFormed, mark, marked, trimmed⟩ := fromTag_eq_ok_iff.mp read
      have visible : Text.isBlank character = false := by
        rw [trimmed] at member
        rcases List.mem_append.mp member with inMark | inText
        · rcases marked with rfl | rfl
          · simp at inMark
          · rw [List.mem_singleton.mp inMark]
            decide
        · exact wellFormed.isBlank_eq_false_of_mem inText
      simp [blank] at visible

end Trimmed

/-- Trimming leaves just one text of a tag.  The tag is read as a version exactly if that text
is the version's, or has one `v` in front of it.  Apart from that `v` reading is strict: it is
the strict reader that rejects the rest, so there is no second `v`, no capital one, and no
blank character left. -/
theorem fromTag_of_trimmed (tag : String) :
    ∃ trimmed : String,
      (∀ other : String, Text.IsTrimOf other.toList tag.toList ↔ other = trimmed) ∧
      (∀ version, fromTag tag = .ok version ↔ (∃ text, parse text = .ok version) ∧
        (trimmed = version.display ∨ trimmed = "v" ++ version.display)) ∧
      (∀ body, trimmed = "v" ++ body → fromTag tag = parse body) ∧
      ((∀ body, trimmed ≠ "v" ++ body) → fromTag tag = parse trimmed) ∧
      (∀ rest, trimmed = "vv" ++ rest →
        fromTag tag = .error (.unexpectedCharacter .major 'v')) ∧
      (∀ rest, trimmed = "V" ++ rest →
        fromTag tag = .error (.unexpectedCharacter .major 'V')) ∧
      ∀ character ∈ trimmed.toList, Text.isBlank character = true →
        ∃ reason, fromTag tag = .error reason := by
  have spelled {text : String} : String.ofList (Text.trim tag.toList) = text ↔
      Text.trim tag.toList = text.toList := by
    rw [← String.toList_inj, String.toList_ofList]
  refine ⟨String.ofList (Text.trim tag.toList), ?_, ?_, ?_, ?_, ?_, ?_, ?_⟩
  · intro other
    rw [Text.isTrimOf_iff, eq_comm (a := other), spelled, eq_comm]
  · intro version
    have formed : (∃ text, parse text = .ok version) ↔ version.WellFormed := by
      simp [parse_eq_ok_iff]
    rw [fromTag_eq_ok_iff, formed, spelled, spelled]
    simp [IsTagMark, display]
  · intro body marked
    exact fromTag_of_marked (by simpa using spelled.mp marked)
  · intro unmarked
    rw [parse, String.toList_ofList]
    apply fromTag_of_unmarked
    intro begins
    obtain ⟨body, marked⟩ := List.head?_eq_some_iff.mp begins
    exact unmarked (String.ofList body) (spelled.mpr (by simpa using marked))
  · intro rest marked
    have trimmed : Text.trim tag.toList = 'v' :: 'v' :: rest.toList := by
      simpa using spelled.mp marked
    rw [fromTag_of_marked trimmed]
    exact ofChars_cons_of_not_digit rest.toList (by decide)
  · intro rest marked
    have trimmed : Text.trim tag.toList = 'V' :: rest.toList := by simpa using spelled.mp marked
    rw [fromTag_of_unmarked (by simp [trimmed]), trimmed]
    exact ofChars_cons_of_not_digit rest.toList (by decide)
  · intro character member blank
    rw [String.toList_ofList] at member
    exact fromTag_of_blank member blank

end Tags

section SampleTag

/-- A tag with blank characters of one, two and three bytes around it. -/
def sampleTag : String := "\t\u00a0v1.4.0-rc.1+linux\u3000\r\n"

def sampleTagVersion : Version := ⟨1, 4, 0, ["rc".toList, "1".toList], ["linux".toList]⟩

theorem parse_sampleTagVersion : parse "1.4.0-rc.1+linux" = .ok sampleTagVersion := by
  decide +kernel

theorem fromTag_of_sampleTag :
    fromTag sampleTag = .ok sampleTagVersion ∧
      fromTag "v01.4.0\n" = parse "01.4.0" ∧ fromTag " 1.4" = parse "1.4" ∧
      fromTag " vv1.4.0" = .error (.unexpectedCharacter .major 'v') ∧
      fromTag "V1.4.0" = .error (.unexpectedCharacter .major 'V') ∧
      ∃ reason, fromTag "v\u20031.4.0" = .error reason := by
  refine ⟨?_, ?_, ?_, ?_, ?_, ?_⟩
  · obtain ⟨trimmed, unique, read, -⟩ := fromTag_of_trimmed sampleTag
    have same : "v1.4.0-rc.1+linux" = trimmed :=
      (unique _).mp (Text.isTrimOf_iff.mpr (by decide +kernel))
    exact (read sampleTagVersion).mpr
      ⟨⟨_, parse_sampleTagVersion⟩, Or.inr (same.symm.trans (by decide +kernel))⟩
  · obtain ⟨trimmed, unique, -, marked, -⟩ := fromTag_of_trimmed "v01.4.0\n"
    exact marked _ ((unique _).mp (Text.isTrimOf_iff.mpr (by decide +kernel))).symm
  · obtain ⟨trimmed, unique, -, -, unmarked, -⟩ := fromTag_of_trimmed " 1.4"
    have same : "1.4" = trimmed := (unique _).mp (Text.isTrimOf_iff.mpr (by decide +kernel))
    subst same
    refine unmarked fun body marked => ?_
    have begins := congrArg (fun text : String => text.toList.head?) marked
    simp at begins
  · obtain ⟨trimmed, unique, -, -, -, twice, -⟩ := fromTag_of_trimmed " vv1.4.0"
    exact twice "1.4.0" ((unique _).mp (Text.isTrimOf_iff.mpr (by decide +kernel))).symm
  · obtain ⟨trimmed, unique, -, -, -, -, capital, -⟩ := fromTag_of_trimmed "V1.4.0"
    exact capital "1.4.0" ((unique _).mp (Text.isTrimOf_iff.mpr (by decide +kernel))).symm
  · obtain ⟨trimmed, unique, -, -, -, -, -, blanks⟩ := fromTag_of_trimmed "v\u20031.4.0"
    have same : "v\u20031.4.0" = trimmed :=
      (unique _).mp (Text.isTrimOf_iff.mpr (by decide +kernel))
    subst same
    exact blanks '\u2003' (by decide) (by decide)

end SampleTag

end SelfUpdate.Version
