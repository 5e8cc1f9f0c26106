import Mathlib.Data.List.TakeWhile

/-!
# Cutting texts

A row of characters that all belong to a class is found again in front of anything that does
not begin with a character of the class.  The segments between the separators of a text hold
characters of the text, but no separators.
-/

namespace SelfUpdate

section Span

variable {α : Type} {p : α → Bool} {front rest : List α}

theorem takeWhile_append_of_stops (inside : ∀ element ∈ front, p element = true)
    (stops : ∀ element ∈ rest.head?, p element = false) :
    (front ++ rest).takeWhile p = front := by
  rw [List.takeWhile_append_of_pos inside]
  cases rest with
  | nil => simp
  | cons element rest => simp [stops element rfl]

theorem dropWhile_append_of_stops (inside : ∀ element ∈ front, p element = true)
    (stops : ∀ element ∈ rest.head?, p element = false) :
    (front ++ rest).dropWhile p = rest := by
  rw [List.dropWhile_append_of_pos inside]
  cases rest with
  | nil => rfl
  | cons element rest => simp [stops element rfl]

theorem stops_dropWhile (list : List α) :
    ∀ element ∈ (list.dropWhile p).head?, p element = false := by
  intro element member
  have first := List.head?_dropWhile_not p list
  rw [Option.mem_def.mp member] at first
  exact first

theorem exists_append_dropWhile (p : α → Bool) (list : List α) :
    ∃ front, (∀ element ∈ front, p element = true) ∧ list = front ++ list.dropWhile p :=
  ⟨list.takeWhile p, fun _ member => List.mem_takeWhile_imp member,
    List.takeWhile_append_dropWhile.symm⟩

end Span

section Segments

variable {α : Type} {separator : α} {list segment : List α}

/-- Of what stands in front of its first separator a text can be told, and of what stands
behind it. -/
theorem append_separator_inj {front other rest further : List α} (inFront : separator ∉ front)
    (inOther : separator ∉ other) :
    front ++ separator :: rest = other ++ separator :: further ↔
      front = other ∧ rest = further := by
  induction front generalizing other with
  | nil =>
      cases other with
      | nil => simp
      | cons first others =>
          have different : separator ≠ first := fun same => inOther (by simp [same])
          simp [different]
  | cons element front ih =>
      cases other with
      | nil =>
          have different : element ≠ separator := fun same => inFront (by simp [same])
          simp [different]
      | cons first others =>
          have shorter := ih (fun later => inFront (List.mem_cons_of_mem _ later))
            (fun later => inOther (List.mem_cons_of_mem _ later))
          rw [List.cons_append, List.cons_append, List.cons.injEq, shorter, List.cons.injEq,
            and_assoc]

theorem not_mem_of_mem_splitOn [DecidableEq α] (member : segment ∈ list.splitOn separator) :
    separator ∉ segment := by
  induction list generalizing segment with
  | nil => simp_all
  | cons element list ih =>
      rw [List.splitOn_cons_eq_if_modifyHead] at member
      split at member
      · rcases List.mem_cons.mp member with rfl | later
        · simp
        · exact ih later
      · next other =>
          cases whole : list.splitOn separator with
          | nil => simp [whole] at member
          | cons first others =>
              rw [whole] at ih member
              rcases List.mem_cons.mp member with rfl | later
              · have different : element ≠ separator := by simpa using other
                simp [ih List.mem_cons_self, Ne.symm different]
              · exact ih (List.mem_cons_of_mem _ later)

theorem mem_intercalate_of_mem {segments : List (List α)} {element : α}
    (member : segment ∈ segments) (inside : element ∈ segment) :
    element ∈ [separator].intercalate segments := by
  induction segments with
  | nil => simp at member
  | cons first others ih =>
      cases others with
      | nil =>
          obtain rfl : segment = first := by simpa using member
          simpa using inside
      | cons second others =>
          rw [List.intercalate_cons_cons]
          rcases List.mem_cons.mp member with rfl | later
          · simp [inside]
          · simp [ih later]

/-- What is joined holds nothing but the segments and the separators between them. -/
theorem mem_of_mem_intercalate {segments : List (List α)} {element : α}
    (member : element ∈ [separator].intercalate segments) :
    element = separator ∨ ∃ segment ∈ segments, element ∈ segment := by
  induction segments with
  | nil => simp at member
  | cons first others ih =>
      cases others with
      | nil => exact Or.inr ⟨first, by simp, by simpa using member⟩
      | cons second others =>
          rw [List.intercalate_cons_cons, List.mem_append, List.mem_append] at member
          rcases member with (inside | between) | later
          · exact Or.inr ⟨first, by simp, inside⟩
          · exact Or.inl (by simpa using between)
          · rcases ih later with same | ⟨segment, among, inside⟩
            · exact Or.inl same
            · exact Or.inr ⟨segment, List.mem_cons_of_mem first among, inside⟩

end Segments

end SelfUpdate
