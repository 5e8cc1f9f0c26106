import SelfUpdate.Proofs.Text.Segments
import SelfUpdate.Text.Blank

/-!
# What trimming leaves

Trimming takes off what is blank around a text that neither begins nor ends with a blank
character.  There is just one such text within a text, and trimming finds it.
-/

namespace SelfUpdate.Text

def AreBlank (text : List Char) : Prop :=
  ∀ character ∈ text, isBlank character = true

theorem AreBlank.reverse {text : List Char} (blank : AreBlank text) : AreBlank text.reverse :=
  fun character member => blank character (List.mem_reverse.mp member)

/-- What is blank in front of a text that does not begin so is taken off. -/
theorem trimFront_append {front text : List Char} (blank : AreBlank front)
    (begins : ∀ character ∈ text.head?, isBlank character = false) :
    trimFront (front ++ text) = text :=
  dropWhile_append_of_stops blank begins

theorem trim_append_append {front text back : List Char} (frontBlank : AreBlank front)
    (backBlank : AreBlank back)
    (begins : ∀ character ∈ text.head?, isBlank character = false)
    (ends : ∀ character ∈ text.getLast?, isBlank character = false) :
    trim (front ++ text ++ back) = text := by
  by_cases void : text = []
  · subst void
    have allBlank : AreBlank (front ++ back) := List.forall_mem_append.mpr ⟨frontBlank, backBlank⟩
    have nothing : trimFront (front ++ back) = [] := List.dropWhile_eq_nil_iff.mpr allBlank
    rw [trim, List.append_nil, nothing]
    rfl
  · have beginsBack : ∀ character ∈ (text ++ back).head?, isBlank character = false := by
      obtain ⟨first, others, rfl⟩ := List.exists_cons_of_ne_nil void
      exact begins
    have endsFront : ∀ character ∈ text.reverse.head?, isBlank character = false := by
      rwa [List.head?_reverse]
    rw [trim, List.append_assoc, trimFront_append frontBlank beginsBack, List.reverse_append,
      trimFront_append backBlank.reverse endsFront, List.reverse_reverse]

/-- What is left of a text without the blank characters around it: it neither begins nor ends
with one. -/
structure IsTrimOf (trimmed text : List Char) : Prop where
  around : ∃ front back, AreBlank front ∧ AreBlank back ∧ text = front ++ trimmed ++ back
  begins : ∀ character ∈ trimmed.head?, isBlank character = false
  ends : ∀ character ∈ trimmed.getLast?, isBlank character = false

theorem exists_append_trimFront (text : List Char) :
    ∃ front, AreBlank front ∧ text = front ++ trimFront text :=
  exists_append_dropWhile isBlank text

theorem isTrimOf_trim (text : List Char) : IsTrimOf (trim text) text := by
  obtain ⟨front, frontBlank, fronted⟩ := exists_append_trimFront text
  obtain ⟨back, backBlank, backed⟩ := exists_append_trimFront (trimFront text).reverse
  have middle : trimFront text = trim text ++ back.reverse := by
    rw [trim, ← List.reverse_append, ← backed, List.reverse_reverse]
  refine ⟨⟨front, back.reverse, frontBlank, backBlank.reverse, ?_⟩, ?_, ?_⟩
  · rw [List.append_assoc, ← middle, ← fronted]
  · intro character member
    have first : character ∈ (trimFront text).head? := by
      rw [middle, List.head?_append, Option.mem_def.mp member]
      rfl
    exact stops_dropWhile text character first
  · intro character member
    rw [trim, List.getLast?_reverse] at member
    exact stops_dropWhile _ character member

/-- Trimming leaves just one text. -/
theorem isTrimOf_iff {trimmed text : List Char} : IsTrimOf trimmed text ↔ trimmed = trim text := by
  constructor
  · rintro ⟨⟨front, back, frontBlank, backBlank, rfl⟩, begins, ends⟩
    exact (trim_append_append frontBlank backBlank begins ends).symm
  · rintro rfl
    exact isTrimOf_trim text

theorem isBlank_eq_false_of_graphic {character : Char} (least : 0x20 < character.toNat)
    (greatest : character.toNat < 0x7f) : isBlank character = false := by
  have outside : ∀ range ∈ blankRanges, range.2 ≤ 0x20 ∨ 0x7f ≤ range.1 := by decide
  rw [isBlank, List.any_eq_false]
  intro range member
  have := outside range member
  simp only [Bool.and_eq_true, decide_eq_true_eq]
  omega

end SelfUpdate.Text
