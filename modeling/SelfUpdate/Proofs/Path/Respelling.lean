import Mathlib.Logic.Relation
import SelfUpdate.Proofs.Path.Spelling

/-!
# Two spellings of one path

A slash between two components may be written several times, and with dots in between.  More
slashes and dots may stand behind the last component.  Nothing else can be changed in a
spelling: two texts have the same components exactly if one can be turned into the other by
writing such slashes and dots, and by leaving them out.

The text that is left when all of them are left out depends on the components alone.
-/

namespace SelfUpdate.Path

open Relation

/-- A text, and one that spells the same path with a slash or a dot less.  The slash that is the
root stays. -/
inductive Shortens : List Char → List Char → Prop
  | slash (front back : List Char) : Shortens (front ++ '/' :: '/' :: back) (front ++ '/' :: back)
  | dot (front back : List Char) :
      Shortens (front ++ '/' :: '.' :: '/' :: back) (front ++ '/' :: back)
  | lastDot (front : List Char) : Shortens (front ++ ['/', '.']) (front ++ ['/'])
  | lastSlash {front : List Char} (notRoot : front ≠ []) : Shortens (front ++ ['/']) front

section Parts

/-- What the part before the first slash stands for: with nothing there, that slash is the
root. -/
def firstComponent (part : List Char) : Component :=
  if part = [] then .root
  else if part = ['.'] then .current
  else .ofPart part

/-- The letters before the first slash. -/
def lettersOfFirst : Component → List Char
  | .root => []
  | component => component.letters

theorem lettersOfFirst_firstComponent (part : List Char) :
    lettersOfFirst (firstComponent part) = part := by
  unfold firstComponent
  split
  · next root => exact root.symm
  split
  · next dot => exact dot.symm
  · have notRoot : lettersOfFirst (.ofPart part) = (Component.ofPart part).letters := by
      unfold Component.ofPart
      split <;> rfl
    rw [notRoot, letters_ofPart]

/-- The components of a text by its parts between slashes. -/
def componentsOfSplit : List (List Char) → List Component
  | [] | [[]] => []
  | first :: others => firstComponent first :: componentsOfParts others

theorem componentsOfSplit_cons {first : List Char} {others : List (List Char)}
    (notEmpty : first ≠ [] ∨ others ≠ []) :
    componentsOfSplit (first :: others) = firstComponent first :: componentsOfParts others := by
  unfold componentsOfSplit
  split
  · next impossible => simp at impossible
  · next same =>
      obtain ⟨rfl, rfl⟩ := List.cons.inj same
      simp at notEmpty
  · next same =>
      obtain ⟨rfl, rfl⟩ := List.cons.inj same
      rfl

theorem componentsOfSplit_eq_nil_iff {first : List Char} {others : List (List Char)} :
    componentsOfSplit (first :: others) = [] ↔ first = [] ∧ others = [] := by
  constructor
  · intro void
    by_contra filled
    rw [componentsOfSplit_cons (not_and_or.mp filled)] at void
    simp at void
  · rintro ⟨rfl, rfl⟩
    rfl

theorem componentsOfSplit_of_ne_nil {first : List Char} {others : List (List Char)}
    (notRoot : first ≠ []) :
    componentsOfSplit (first :: others) = relativeComponents (first :: others) := by
  rw [componentsOfSplit_cons (Or.inl notRoot), firstComponent, if_neg notRoot]
  by_cases dot : first = ['.']
  · rw [if_pos dot, dot, relativeComponents]
  · have filled : ¬(first = [] ∨ first = ['.']) := by simp [notRoot, dot]
    have named : relativeComponents (first :: others) = componentsOfParts (first :: others) := by
      unfold relativeComponents
      split
      · next same => exact absurd (List.cons.inj same).1 dot
      · rfl
    rw [if_neg dot, named, componentsOfParts_cons, componentsOfParts_singleton filled,
      List.singleton_append]

theorem components_ofChars (letters : List Char) :
    (ofChars letters).components = componentsOfSplit (letters.splitOn '/') := by
  cases letters with
  | nil => rfl
  | cons letter rest =>
      by_cases slash : letter = '/'
      · subst slash
        have parts : ('/' :: rest).splitOn '/' = [] :: rest.splitOn '/' :=
          List.splitOn_append_cons_self [] rest
        rw [components_ofChars_root, parts, componentsOfSplit_cons (Or.inr (by simp))]
        rfl
      · have relative : (letter :: rest).head? ≠ some '/' := by simpa using slash
        rw [components_ofChars_relative relative]
        cases parts : (letter :: rest).splitOn '/' with
        | nil => simp at parts
        | cons first others =>
            refine (componentsOfSplit_of_ne_nil ?_).symm
            rintro rfl
            rw [List.splitOn_cons_eq_if_modifyHead] at parts
            cases restParts : rest.splitOn '/' <;> simp [slash, restParts] at parts

end Parts

section Shortening

/-- A part that is no component, anywhere but in front. -/
theorem componentsOfSplit_void {first void : List Char} {middle back : List (List Char)}
    (isVoid : void = [] ∨ void = ['.']) (more : first ≠ [] ∨ middle ++ back ≠ []) :
    componentsOfSplit (first :: middle ++ void :: back) =
      componentsOfSplit (first :: middle ++ back) := by
  simp only [List.cons_append]
  rw [componentsOfSplit_cons more, componentsOfSplit_cons (Or.inr (by simp)),
    componentsOfParts_append, componentsOfParts_cons void, componentsOfParts_empty isVoid,
    componentsOfParts_append, List.nil_append]

theorem exists_splitOn_eq_cons (letters : List Char) :
    ∃ first others, letters.splitOn '/' = first :: others :=
  List.exists_cons_of_ne_nil (List.splitOn_ne_nil '/' letters)

/-- Leaving out a slash or a dot between components, or behind them, changes no component. -/
theorem Shortens.components_eq {left right : List Char} (shortens : Shortens left right) :
    (ofChars left).components = (ofChars right).components := by
  simp only [components_ofChars]
  cases shortens with
  | slash front back =>
      obtain ⟨first, middle, parts⟩ := exists_splitOn_eq_cons front
      have void : ('/' :: back).splitOn '/' = [] :: back.splitOn '/' :=
        List.splitOn_append_cons_self [] back
      rw [List.splitOn_append_cons_self, List.splitOn_append_cons_self, void, parts]
      exact componentsOfSplit_void (Or.inl rfl) (Or.inr (by simp))
  | dot front back =>
      obtain ⟨first, middle, parts⟩ := exists_splitOn_eq_cons front
      have void : ('.' :: '/' :: back).splitOn '/' = ['.'] :: back.splitOn '/' :=
        List.splitOn_append_cons_self ['.'] back
      rw [List.splitOn_append_cons_self, List.splitOn_append_cons_self, void, parts]
      exact componentsOfSplit_void (Or.inr rfl) (Or.inr (by simp))
  | lastDot front =>
      obtain ⟨first, middle, parts⟩ := exists_splitOn_eq_cons front
      have dot : ['.'].splitOn '/' = [['.']] := by decide
      have nothing : [].splitOn '/' = [[]] := by decide
      rw [List.splitOn_append_cons_self, List.splitOn_append_cons_self, dot, nothing, parts]
      simp only [List.cons_append]
      rw [componentsOfSplit_cons (Or.inr (by simp)), componentsOfSplit_cons (Or.inr (by simp))]
      simp only [componentsOfParts_append, componentsOfParts_empty (Or.inl rfl),
        componentsOfParts_empty (Or.inr rfl)]
  | lastSlash notRoot =>
      obtain ⟨first, middle, parts⟩ := exists_splitOn_eq_cons right
      have nothing : [].splitOn '/' = [[]] := by decide
      have more : first ≠ [] ∨ middle ++ [] ≠ [] := by
        by_contra neither
        obtain ⟨rfl, rfl⟩ : first = [] ∧ middle = [] := by simpa using neither
        have joined : ['/'].intercalate (right.splitOn '/') = right := List.intercalate_splitOn '/'
        rw [parts] at joined
        exact notRoot joined.symm
      rw [List.splitOn_append_cons_self, nothing, parts]
      simpa only [List.append_nil] using componentsOfSplit_void (Or.inl rfl) more

end Shortening

section Shortest

/-- The text of a first part and of others that each follow a slash. -/
def spell (first : List Char) (others : List (List Char)) : List Char :=
  first ++ others.flatMap ('/' :: ·)

theorem spell_splitOn {letters first : List Char} {others : List (List Char)}
    (parts : letters.splitOn '/' = first :: others) : spell first others = letters := by
  have joined : ['/'].intercalate (letters.splitOn '/') = letters := List.intercalate_splitOn '/'
  rw [← joined, parts]
  clear joined parts
  induction others generalizing first with
  | nil => simp [spell]
  | cons second others ih => simp [spell, ← ih]

/-- The shortest text with the same components: no part but the first is void, unless the slash
in front of it is the root. -/
def shortest (first : List Char) (others : List (List Char)) : List Char :=
  let named := others.filter fun part => part ≠ [] ∧ part ≠ ['.']
  if first = [] ∧ named = [] then ['/'] else spell first named

theorem shortest_void {first void : List Char} (others : List (List Char))
    (isVoid : void = [] ∨ void = ['.']) :
    shortest first (void :: others) = shortest first others := by
  rcases isVoid with rfl | rfl <;> simp [shortest]

theorem shortest_named {first part : List Char} (others : List (List Char))
    (named : ¬(part = [] ∨ part = ['.'])) :
    shortest first (part :: others) = shortest (first ++ '/' :: part) others := by
  push Not at named
  simp [shortest, spell, named]

private theorem eqvGen_last (front : List Char) :
    EqvGen Shortens (front ++ ['/']) (shortest front []) := by
  by_cases root : front = []
  · subst root
    exact EqvGen.refl _
  · have same : shortest front [] = front := by simp [shortest, spell, root]
    rw [same]
    exact .rel _ _ (.lastSlash root)

theorem eqvGen_shortest {first : List Char} {others : List (List Char)}
    (notEmpty : first ≠ [] ∨ others ≠ []) :
    EqvGen Shortens (spell first others) (shortest first others) := by
  induction others generalizing first with
  | nil =>
      have same : shortest first [] = spell first [] := by
        simp [shortest, notEmpty.resolve_right (by simp)]
      rw [same]
      exact .refl _
  | cons part others ih =>
      by_cases void : part = [] ∨ part = ['.']
      · rw [shortest_void others void]
        cases others with
        | nil =>
            rcases void with rfl | rfl
            · exact eqvGen_last first
            · exact .trans _ _ _ (.rel _ _ (.lastDot first)) (eqvGen_last first)
        | cons next others =>
            refine .trans _ (spell first (next :: others)) _ (.rel _ _ ?_) (ih (Or.inr (by simp)))
            rcases void with rfl | rfl
            · exact .slash first (next ++ others.flatMap ('/' :: ·))
            · exact .dot first (next ++ others.flatMap ('/' :: ·))
      · have regrouped : spell first (part :: others) = spell (first ++ '/' :: part) others := by
          simp [spell]
        rw [shortest_named others void, regrouped]
        exact ih (Or.inl (by simp))

end Shortest

/-- Two texts spell the same components exactly if one leads to the other by slashes and dots
between the components and behind them. -/
theorem components_eq_iff {left right : List Char} :
    (ofChars left).components = (ofChars right).components ↔ EqvGen Shortens left right := by
  constructor
  · intro same
    simp only [components_ofChars] at same
    obtain ⟨first, others, parts⟩ := exists_splitOn_eq_cons left
    obtain ⟨first', others', parts'⟩ := exists_splitOn_eq_cons right
    rw [parts, parts'] at same
    rw [← spell_splitOn parts, ← spell_splitOn parts']
    have sameEmpty : first = [] ∧ others = [] ↔ first' = [] ∧ others' = [] := by
      rw [← componentsOfSplit_eq_nil_iff, same, componentsOfSplit_eq_nil_iff]
    by_cases empty : first = [] ∧ others = []
    · obtain ⟨rfl, rfl⟩ := sameEmpty.mp empty
      obtain ⟨rfl, rfl⟩ := empty
      exact .refl _
    have filled := not_and_or.mp empty
    have filled' := not_and_or.mp (mt sameEmpty.mpr empty)
    rw [componentsOfSplit_cons filled, componentsOfSplit_cons filled'] at same
    obtain ⟨sameFirst, sameOthers⟩ := List.cons.inj same
    have injective : Function.Injective Component.ofPart :=
      Function.LeftInverse.injective letters_ofPart
    obtain rfl := Function.LeftInverse.injective lettersOfFirst_firstComponent sameFirst
    have sameNamed := List.map_injective_iff.mpr injective sameOthers
    have sameShortest : shortest first others = shortest first others' := by
      simp only [shortest, sameNamed]
    exact .trans _ _ _ (eqvGen_shortest filled)
      (sameShortest ▸ .symm _ _ (eqvGen_shortest filled'))
  · intro respelled
    induction respelled with
    | rel left right shortens => exact shortens.components_eq
    | refl => rfl
    | symm _ _ _ ih => exact ih.symm
    | trans _ _ _ _ _ first second => exact first.trans second

end SelfUpdate.Path
