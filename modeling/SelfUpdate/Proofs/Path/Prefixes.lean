import SelfUpdate.Proofs.Path.Respelling

/-!
# Paths above and paths beside

The root stands in front of a path or nowhere.  So what lies above a path that was read from a
text are all the paths that its components begin with, and no others.

A longer text does not name a place below a shorter one if it only goes on with the last name:
that is a neighbour.
-/

namespace SelfUpdate.Path

section Above

theorem ofPart_ne_root (part : List Char) : Component.ofPart part ≠ .root := by
  unfold Component.ofPart
  split <;> simp

theorem root_not_mem_componentsOfParts (parts : List (List Char)) :
    .root ∉ componentsOfParts parts := by
  simp [componentsOfParts, ofPart_ne_root]

/-- The root is nowhere but in front. -/
def RootInFront (path : Path) : Prop :=
  .root ∉ path.components.tail

theorem rootInFront_ofChars (letters : List Char) : (ofChars letters).RootInFront := by
  obtain ⟨first, others, parts⟩ := exists_splitOn_eq_cons letters
  rw [RootInFront, components_ofChars, parts]
  by_cases filled : first ≠ [] ∨ others ≠ []
  · rw [componentsOfSplit_cons filled]
    exact root_not_mem_componentsOfParts others
  · obtain ⟨rfl, rfl⟩ : first = [] ∧ others = [] := by simpa using filled
    simp [componentsOfSplit]

theorem ancestors_concat {steps : List Step} {step : Step} (notRoot : step.component ≠ .root)
    (tail : List Char) :
    ancestors ⟨steps ++ [step], tail⟩ = ⟨steps ++ [step], tail⟩ :: ancestors ⟨steps, []⟩ := by
  obtain ⟨gap, component⟩ := step
  cases component <;> simp [ancestors, ancestorsOfReversed] at notRoot ⊢

theorem parent_concat {steps : List Step} {step : Step} (notRoot : step.component ≠ .root)
    (tail : List Char) : parent ⟨steps ++ [step], tail⟩ = some ⟨steps, []⟩ := by
  obtain ⟨gap, component⟩ := step
  cases component <;> simp [parent] at notRoot ⊢

/-- The ancestors of a path without the path itself. -/
def above (path : Path) : List Path :=
  (path.parent.map ancestors).getD []

theorem ancestors_eq (path : Path) : path.ancestors = path :: path.above := by
  obtain ⟨steps, tail⟩ := path
  rcases List.eq_nil_or_concat' steps with rfl | ⟨front, step, rfl⟩
  · rfl
  · by_cases root : step.component = .root
    · obtain ⟨gap, component⟩ := step
      obtain rfl : component = .root := root
      simp [above, ancestors, ancestorsOfReversed, parent]
    · rw [above, ancestors_concat root, parent_concat root, Option.map_some, Option.getD_some]

/-- What lies above a path are the paths that its components begin with. -/
theorem exists_ancestor_iff {path : Path} (rooted : path.RootInFront) {place : List Component} :
    (∃ ancestor ∈ path.ancestors, ancestor.isEmpty = false ∧ place = ancestor.components) ↔
      place <+: path.components ∧ place ≠ [] := by
  obtain ⟨steps, tail⟩ := path
  induction steps using List.reverseRecOn generalizing tail with
  | nil => simp +contextual [ancestors, ancestorsOfReversed, isEmpty, components]
  | append_singleton steps step ih =>
      have whole : components ⟨steps ++ [step], tail⟩ =
          components ⟨steps, []⟩ ++ [step.component] := by
        simp [components]
      have notEmpty : isEmpty ⟨steps ++ [step], tail⟩ = false := by
        simp [isEmpty]
      rw [RootInFront, whole] at rooted
      by_cases root : step.component = .root
      · -- A root that is last is all there is.
        have alone : steps = [] := by
          cases steps with
          | nil => rfl
          | cons first others => simp [components, root] at rooted
        subst alone
        obtain ⟨gap, component⟩ := step
        obtain rfl : component = .root := root
        have only : ancestors ⟨[] ++ [⟨gap, .root⟩], tail⟩ = [⟨[] ++ [⟨gap, .root⟩], tail⟩] := by
          simp [ancestors, ancestorsOfReversed]
        simp only [only, List.mem_singleton, exists_eq_left, notEmpty, true_and, whole,
          List.prefix_concat_iff]
        constructor
        · rintro rfl
          simp [components]
        · rintro ⟨same | inside, notNil⟩
          · exact same
          · exact absurd (List.prefix_nil.mp inside) notNil
      · have rootedAbove : RootInFront ⟨steps, []⟩ := fun member =>
          rooted ((List.sublist_append_left _ _).tail.subset member)
        simp only [ancestors_concat root, List.mem_cons, exists_eq_or_imp, notEmpty, true_and,
          ih [] rootedAbove, whole, List.prefix_concat_iff]
        constructor
        · rintro (rfl | ⟨inside, notNil⟩)
          · exact ⟨Or.inl rfl, by simp⟩
          · exact ⟨Or.inr inside, notNil⟩
        · rintro ⟨same | inside, notNil⟩
          · exact Or.inl same
          · exact Or.inr ⟨inside, notNil⟩

theorem not_liesIn_of_mem_above {path ancestor : Path} (member : ancestor ∈ path.above) :
    ancestor.liesIn path = false := by
  obtain ⟨steps, tail⟩ := path
  rcases List.eq_nil_or_concat' steps with rfl | ⟨front, step, rfl⟩
  · simp [above, parent] at member
  · by_cases root : step.component = .root
    · obtain ⟨gap, component⟩ := step
      obtain rfl : component = .root := root
      simp [above, parent] at member
    · rw [above, parent_concat root, Option.map_some, Option.getD_some] at member
      have shorter := (isPrefix_of_mem_ancestors member).length_le
      rw [Bool.eq_false_iff, ne_eq, liesIn_iff]
      intro within
      have longer := within.length_le
      simp only [components, List.length_map, List.length_append, List.length_singleton]
        at shorter longer
      omega

theorem exists_above_iff {path : Path} (rooted : path.RootInFront) {place : List Component} :
    (∃ ancestor ∈ path.above, ancestor.isEmpty = false ∧ place = ancestor.components) ↔
      place <+: path.components ∧ place ≠ [] ∧ place ≠ path.components := by
  rw [← and_assoc, ← exists_ancestor_iff rooted, ancestors_eq]
  constructor
  · rintro ⟨ancestor, member, notEmpty, rfl⟩
    refine ⟨⟨ancestor, List.mem_cons_of_mem path member, notEmpty, rfl⟩, fun same => ?_⟩
    exact Bool.eq_false_iff.mp (not_liesIn_of_mem_above member) (liesIn_of_components_eq same)
  · rintro ⟨⟨ancestor, member, notEmpty, rfl⟩, apart⟩
    rcases List.mem_cons.mp member with rfl | further
    · exact absurd rfl apart
    · exact ⟨ancestor, further, notEmpty, rfl⟩

end Above

section Beside

/-- A last part that is a component stands behind those of the parts before it. -/
theorem componentsOfSplit_concat (front : List (List Char)) :
    ∃ base, ∀ last, ¬(last = [] ∨ last = ['.']) →
      componentsOfSplit (front ++ [last]) = base ++ [.ofPart last] := by
  cases front with
  | nil =>
      refine ⟨[], fun last filled => ?_⟩
      have notVoid := not_or.mp filled
      rw [List.nil_append, componentsOfSplit_cons (Or.inl notVoid.1), firstComponent,
        if_neg notVoid.1, if_neg notVoid.2]
      rfl
  | cons first others =>
      refine ⟨firstComponent first :: componentsOfParts others, fun last filled => ?_⟩
      rw [List.cons_append, componentsOfSplit_cons (Or.inr (by simp)), componentsOfParts_append,
        componentsOfParts_singleton filled, List.cons_append]

/-- What is at a path with a longer last name, or below it, does not lie in the path. -/
theorem not_liesIn_of_neighbour {letters ending : List Char} (ends : EndsInComponent letters)
    (plain : '/' ∉ ending) (longer : ending ≠ []) {path : Path}
    (beside : path.liesIn (ofChars (letters ++ ending)) = true) :
    path.liesIn (ofChars letters) = false := by
  obtain ⟨final, isLast, notEmpty, notDot⟩ := ends
  obtain ⟨front, last, found, lengthened⟩ := splitOn_append letters plain
  obtain rfl : last = final := by simpa [found] using isLast
  obtain ⟨base, ended⟩ := componentsOfSplit_concat front
  have filled : ¬(last = [] ∨ last = ['.']) := by simp [notEmpty, notDot]
  have filledLonger : ¬(last ++ ending = [] ∨ last ++ ending = ['.']) := by
    simp [notEmpty, longer, List.append_eq_singleton_iff]
  rw [liesIn_iff, components_ofChars, lengthened, ended (last ++ ending) filledLonger] at beside
  rw [Bool.eq_false_iff, ne_eq, liesIn_iff, components_ofChars, found, ended last filled]
  intro within
  -- Both begin the same path, and they are equally long.
  have same := (List.prefix_of_prefix_length_le within beside (by simp)).eq_of_length (by simp)
  have sameLast : last = last ++ ending :=
    Function.LeftInverse.injective letters_ofPart
      (List.cons.inj (List.append_cancel_left same)).1
  exact longer (List.self_eq_append_right.mp sameLast)

example : (ofString "/tmp/workshop").liesIn (ofString "/tmp/work") = false := by decide

end Beside

end SelfUpdate.Path
