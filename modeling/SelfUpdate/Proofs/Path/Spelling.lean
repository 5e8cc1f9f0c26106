import Mathlib.Data.List.Infix
import SelfUpdate.Path.Basic

/-!
# Spellings of paths

A path that was read from characters is spelled with exactly those characters.
Its components depend only on the parts between slashes.  So the components of a
path whose spelling is made longer at its end are known: the last part grows into
a name, and whatever stood before it stays.

Neither of two such paths lies in the other unless a whole component was added.
In particular a path never lies in the one with the longer spelling.
-/

namespace SelfUpdate.Path

@[simp]
theorem sameAs_iff (path other : Path) :
    path.sameAs other = true ↔ path.components = other.components := by
  simp [sameAs]

theorem components_ne_of_not_sameAs {path other : Path}
    (different : (!other.sameAs path) = true) : path.components ≠ other.components := by
  intro same
  simp [sameAs, same] at different

@[simp]
theorem liesIn_iff (path base : Path) :
    path.liesIn base = true ↔ base.components <+: path.components := by
  simp [liesIn]

theorem liesIn_of_components_eq {path base : Path} (same : path.components = base.components) :
    path.liesIn base = true := by
  rw [liesIn_iff, same]

@[simp]
theorem components_child (path : Path) (name : List Char) :
    (path.child name).components = path.components ++ [.name name] := by
  simp [child, components]

/-- Above an entry lies what lies above its directory, and the directory itself. -/
theorem ancestors_child (path : Path) (name : List Char) :
    ∃ directory above, directory.steps = path.steps ∧ path.ancestors = path :: above ∧
      (path.child name).parent = some directory ∧
      (path.child name).ancestors = path.child name :: directory :: above := by
  refine ⟨⟨path.steps, []⟩, _, rfl, rfl, ?_, ?_⟩
  · simp [parent, child]
  · simp [ancestors, child, ancestorsOfReversed]

private theorem isPrefix_of_mem_ancestorsOfReversed {ancestor : Path} {reversed : List Step}
    (member : ancestor ∈ ancestorsOfReversed reversed) :
    ancestor.components <+: reversed.reverse.map Step.component := by
  induction reversed with
  | nil => simp [ancestorsOfReversed] at member
  | cons step reversed ih =>
      unfold ancestorsOfReversed at member
      split at member
      · simp at member
      · simp at member
      · next _ _ rest same =>
          obtain ⟨rfl, rfl⟩ := List.cons.inj same
          rw [List.reverse_cons, List.map_append]
          rcases List.mem_cons.mp member with rfl | further
          · exact List.prefix_append _ _
          · exact (ih further).trans (List.prefix_append _ _)

/-- A path lies in all its ancestors. -/
theorem isPrefix_of_mem_ancestors {path ancestor : Path} (member : ancestor ∈ path.ancestors) :
    ancestor.components <+: path.components := by
  rcases List.mem_cons.mp member with rfl | further
  · exact List.prefix_rfl
  · simpa [components] using isPrefix_of_mem_ancestorsOfReversed further

def componentsOfParts (parts : List (List Char)) : List Component :=
  (parts.filter fun part => part ≠ [] ∧ part ≠ ['.']).map Component.ofPart

theorem componentsOfParts_append (front back : List (List Char)) :
    componentsOfParts (front ++ back) =
      componentsOfParts front ++ componentsOfParts back := by
  simp [componentsOfParts]

theorem componentsOfParts_empty {part : List Char} (void : part = [] ∨ part = ['.']) :
    componentsOfParts [part] = [] := by
  rcases void with rfl | rfl <;> rfl

theorem componentsOfParts_singleton {part : List Char}
    (filled : ¬(part = [] ∨ part = ['.'])) :
    componentsOfParts [part] = [Component.ofPart part] := by
  push Not at filled
  simp [componentsOfParts, filled]

theorem componentsOfParts_cons (part : List Char) (parts : List (List Char)) :
    componentsOfParts (part :: parts) =
      componentsOfParts [part] ++ componentsOfParts parts :=
  componentsOfParts_append [part] parts

@[simp]
theorem letters_ofPart (part : List Char) : (Component.ofPart part).letters = part := by
  unfold Component.ofPart
  split <;> simp_all [Component.letters]

/-- A part of more than two characters is the name that it spells. -/
theorem ofPart_of_two_lt_length {part : List Char} (long : 2 < part.length) :
    Component.ofPart part = .name part := by
  have notParent : part ≠ ['.', '.'] := by
    rintro rfl
    simp at long
  simp [Component.ofPart, notParent]

theorem readParts_components (gap : List Char) (parts : List (List Char)) :
    (readParts gap parts).1.map Step.component = componentsOfParts parts := by
  induction parts generalizing gap with
  | nil => rfl
  | cons part parts ih =>
      rw [componentsOfParts_cons]
      by_cases void : part = [] ∨ part = ['.']
      · simp only [readParts, if_pos void, ih, componentsOfParts_empty void, List.nil_append]
      · simp only [readParts, if_neg void, List.map_cons, ih,
          componentsOfParts_singleton void, List.singleton_append]

private theorem separator_append_intercalate (parts : List (List Char)) :
    (if parts.isEmpty then [] else ['/']) ++ ['/'].intercalate parts =
      ['/'].intercalate ([] :: parts) := by
  cases parts <;> simp

private theorem intercalate_cons_append (part : List Char) (parts : List (List Char)) :
    part ++ ['/'].intercalate ([] :: parts) = ['/'].intercalate (part :: parts) := by
  cases parts <;> simp

theorem letters_cons (gap : List Char) (component : Component) (steps : List Step)
    (tail : List Char) :
    Path.letters ⟨⟨gap, component⟩ :: steps, tail⟩ =
      gap ++ component.letters ++ Path.letters ⟨steps, tail⟩ := by
  simp [Path.letters]

theorem readParts_letters (gap : List Char) (parts : List (List Char)) :
    Path.letters ⟨(readParts gap parts).1, (readParts gap parts).2⟩ =
      gap ++ ['/'].intercalate parts := by
  induction parts generalizing gap with
  | nil => simp [readParts, Path.letters]
  | cons part parts ih =>
      rw [← intercalate_cons_append, ← separator_append_intercalate]
      by_cases void : part = [] ∨ part = ['.']
      · simp only [readParts, if_pos void, ih, List.append_assoc]
      · simp only [readParts, if_neg void, letters_cons, letters_ofPart, List.append_assoc, ih]

theorem components_ofChars_root (letters : List Char) :
    (ofChars ('/' :: letters)).components =
      .root :: componentsOfParts (letters.splitOn '/') := by
  simp [ofChars, components, readParts_components]

def relativeComponents : List (List Char) → List Component
  | ['.'] :: parts => .current :: componentsOfParts parts
  | parts => componentsOfParts parts

theorem components_ofChars_relative {letters : List Char}
    (relative : letters.head? ≠ some '/') :
    (ofChars letters).components = relativeComponents (letters.splitOn '/') := by
  unfold ofChars
  split
  · simp at relative
  · generalize letters.splitOn '/' = parts
    unfold relativeComponents
    split <;> simp [components, readParts_components]

/-- A path is spelled with the characters it was read from. -/
@[simp]
theorem letters_ofChars (letters : List Char) : (ofChars letters).letters = letters := by
  have joined : ['/'].intercalate (letters.splitOn '/') = letters :=
    List.intercalate_splitOn '/'
  unfold ofChars
  split
  · next rest =>
      have restJoined : ['/'].intercalate (rest.splitOn '/') = rest :=
        List.intercalate_splitOn '/'
      rw [letters_cons, readParts_letters, restJoined]
      rfl
  · split
    · next parts split =>
        rw [split, ← intercalate_cons_append] at joined
        rw [letters_cons, readParts_letters, separator_append_intercalate]
        exact joined
    · rw [readParts_letters, joined, List.nil_append]

/-- Characters without a slash lengthen the last part. -/
theorem splitOn_append (letters : List Char) {ending : List Char} (plain : '/' ∉ ending) :
    ∃ front last, letters.splitOn '/' = front ++ [last] ∧
      (letters ++ ending).splitOn '/' = front ++ [last ++ ending] := by
  induction letters with
  | nil => exact ⟨[], [], rfl, by simpa using List.splitOn_eq_singleton plain⟩
  | cons letter letters ih =>
      obtain ⟨front, last, found, longer⟩ := ih
      simp only [List.cons_append, List.splitOn_cons_eq_if_modifyHead, found, longer]
      by_cases slash : (letter == '/') = true
      · exact ⟨[] :: front, last, by simp [slash], by simp [slash]⟩
      · simp only [slash]
        cases front with
        | nil => exact ⟨[], letter :: last, rfl, rfl⟩
        | cons part front => exact ⟨(letter :: part) :: front, last, rfl, rfl⟩

/-- How components change when the spelling grows at its end: the last part becomes a
longer name, and it was a component of its own before, or none. -/
def Grown (ending : List Char) (before after : List Component) : Prop :=
  ∃ base last, after = base ++ [.name (last ++ ending)] ∧
    (before = base ∨ ∃ component : Component,
      component.letters = last ∧ before = base ++ [component])

theorem Grown.cons {ending : List Char} {before after : List Component}
    (grown : Grown ending before after) (component : Component) :
    Grown ending (component :: before) (component :: after) := by
  obtain ⟨base, last, rfl, same⟩ := grown
  refine ⟨component :: base, last, rfl, ?_⟩
  rcases same with rfl | ⟨old, lettersEq, rfl⟩
  · exact Or.inl rfl
  · exact Or.inr ⟨old, lettersEq, rfl⟩

private theorem componentsOfParts_longer {last ending : List Char} (long : 2 < ending.length) :
    componentsOfParts [last ++ ending] = [.name (last ++ ending)] := by
  have longer : 2 < (last ++ ending).length := by
    rw [List.length_append]
    omega
  have filled : ¬(last ++ ending = [] ∨ last ++ ending = ['.']) := by
    rintro (empty | dot)
    · simp [empty] at longer
    · simp [dot] at longer
  rw [componentsOfParts_singleton filled, ofPart_of_two_lt_length longer]

theorem grown_componentsOfParts (front : List (List Char)) (last : List Char)
    {ending : List Char} (long : 2 < ending.length) :
    Grown ending (componentsOfParts (front ++ [last]))
      (componentsOfParts (front ++ [last ++ ending])) := by
  simp only [componentsOfParts_append, componentsOfParts_longer long]
  refine ⟨componentsOfParts front, last, rfl, ?_⟩
  by_cases void : last = [] ∨ last = ['.']
  · left
    rw [componentsOfParts_empty void, List.append_nil]
  · right
    exact ⟨Component.ofPart last, letters_ofPart last, by rw [componentsOfParts_singleton void]⟩

private theorem relativeComponents_cons {part : List Char} (parts : List (List Char))
    (notDot : part ≠ ['.']) :
    relativeComponents (part :: parts) = componentsOfParts (part :: parts) := by
  unfold relativeComponents
  split
  · next same => exact absurd (List.cons.inj same).1 notDot
  · rfl

theorem grown_relativeComponents (front : List (List Char)) (last : List Char)
    {ending : List Char} (long : 2 < ending.length) :
    Grown ending (relativeComponents (front ++ [last]))
      (relativeComponents (front ++ [last ++ ending])) := by
  cases front with
  | nil =>
      have notDot : last ++ ending ≠ ['.'] := by
        intro dot
        have lengthEq := congrArg List.length dot
        simp only [List.length_append, List.length_singleton] at lengthEq
        omega
      simp only [List.nil_append, relativeComponents_cons [] notDot]
      by_cases dot : last = ['.']
      · -- A lone dot is a component although no part of that spelling leaves one.
        subst last
        exact ⟨[], ['.'], componentsOfParts_longer long, Or.inr ⟨.current, rfl, rfl⟩⟩
      · rw [relativeComponents_cons [] dot]
        exact grown_componentsOfParts [] last long
  | cons part front =>
      by_cases dot : part = ['.']
      · subst part
        exact (grown_componentsOfParts front last long).cons .current
      · simp only [List.cons_append, relativeComponents_cons _ dot]
        exact grown_componentsOfParts (part :: front) last long

/-- The components of a path whose spelling is made longer by some characters without a
slash. -/
theorem grown_ofChars_append (letters : List Char) {ending : List Char}
    (plain : '/' ∉ ending) (long : 2 < ending.length) :
    Grown ending (ofChars letters).components (ofChars (letters ++ ending)).components := by
  by_cases absolute : letters.head? = some '/'
  · obtain ⟨rest, rfl⟩ : ∃ rest, letters = '/' :: rest := by
      cases letters with
      | nil => simp at absolute
      | cons letter rest => exact ⟨rest, by simpa using absolute⟩
    obtain ⟨front, last, found, longer⟩ := splitOn_append rest plain
    rw [List.cons_append, components_ofChars_root, components_ofChars_root, found, longer]
    exact (grown_componentsOfParts front last long).cons .root
  · have stillRelative : (letters ++ ending).head? ≠ some '/' := by
      cases letters with
      | nil => exact fun slash => plain (List.mem_of_mem_head? slash)
      | cons letter rest => exact absolute
    obtain ⟨front, last, found, longer⟩ := splitOn_append letters plain
    rw [components_ofChars_relative absolute, components_ofChars_relative stillRelative,
      found, longer]
    exact grown_relativeComponents front last long

theorem grown_extend (text : String) {ending : List Char} (plain : '/' ∉ ending)
    (long : 2 < ending.length) :
    Grown ending (ofString text).components ((ofString text).extend ending).components := by
  unfold ofString extend
  rw [letters_ofChars]
  exact grown_ofChars_append text.toList plain long

section Grown

variable {ending : List Char} {before after place : List Component}

/-- A path does not lie in the one with the longer spelling. -/
theorem Grown.not_isPrefix (grown : Grown ending before after) (filled : ending ≠ []) :
    ¬after <+: before := by
  obtain ⟨base, last, rfl, same⟩ := grown
  intro isPrefix
  rcases same with rfl | ⟨component, lettersEq, rfl⟩
  · have lengthLe := isPrefix.length_le
    simp only [List.length_append, List.length_singleton] at lengthLe
    omega
  · have equal := isPrefix.eq_of_length (by simp)
    rw [List.append_cancel_left_eq] at equal
    obtain rfl : Component.name (last ++ ending) = component := by simpa using equal
    exact filled (by simpa [Component.letters] using lettersEq)

/-- A place with the longer spelling below it has the shorter one below it too, unless it
is the longer spelling. -/
theorem Grown.isPrefix_or_eq (grown : Grown ending before after) (within : place <+: after) :
    place <+: before ∨ place = after := by
  obtain ⟨base, last, rfl, same⟩ := grown
  rcases List.prefix_concat_iff.mp within with equal | inBase
  · exact Or.inr equal
  · left
    rcases same with rfl | ⟨component, -, rfl⟩
    · exact inBase
    · exact inBase.trans (List.prefix_append base [component])

theorem Grown.exists_name_mem (grown : Grown ending before after) :
    ∃ last, Component.name (last ++ ending) ∈ after := by
  obtain ⟨base, last, rfl, -⟩ := grown
  exact ⟨last, by simp⟩

end Grown

section Lengthened

/-- A spelling that goes on to the end of the last component: what stands after its last
slash is a component of its own. -/
def EndsInComponent (letters : List Char) : Prop :=
  ∃ last ∈ (letters.splitOn '/').getLast?, last ≠ [] ∧ last ≠ ['.']

/-- How components change when such a spelling grows: the last one becomes a longer name. -/
def Lengthened (ending : List Char) (before after : List Component) : Prop :=
  ∃ base component, component ≠ .root ∧ before = base ++ [component] ∧
    after = base ++ [.name (component.letters ++ ending)]

theorem Lengthened.cons {ending : List Char} {before after : List Component}
    (lengthened : Lengthened ending before after) (component : Component) :
    Lengthened ending (component :: before) (component :: after) := by
  obtain ⟨base, last, notRoot, rfl, rfl⟩ := lengthened
  exact ⟨component :: base, last, notRoot, rfl, rfl⟩

variable {last ending : List Char}

theorem lengthened_componentsOfParts (front : List (List Char))
    (filled : ¬(last = [] ∨ last = ['.'])) (long : 2 < ending.length) :
    Lengthened ending (componentsOfParts (front ++ [last]))
      (componentsOfParts (front ++ [last ++ ending])) := by
  refine ⟨componentsOfParts front, Component.ofPart last, ?_, ?_, ?_⟩
  · unfold Component.ofPart
    split <;> simp
  · rw [componentsOfParts_append, componentsOfParts_singleton filled]
  · rw [componentsOfParts_append, componentsOfParts_longer long, letters_ofPart]

theorem lengthened_relativeComponents (front : List (List Char))
    (filled : ¬(last = [] ∨ last = ['.'])) (long : 2 < ending.length) :
    Lengthened ending (relativeComponents (front ++ [last]))
      (relativeComponents (front ++ [last ++ ending])) := by
  cases front with
  | nil =>
      have notDot : last ++ ending ≠ ['.'] := by
        intro dot
        have lengthEq := congrArg List.length dot
        simp only [List.length_append, List.length_singleton] at lengthEq
        omega
      rw [List.nil_append, List.nil_append, relativeComponents_cons [] notDot,
        relativeComponents_cons [] fun dot => filled (Or.inr dot)]
      exact lengthened_componentsOfParts [] filled long
  | cons part front =>
      by_cases dot : part = ['.']
      · subst part
        exact (lengthened_componentsOfParts front filled long).cons .current
      · simp only [List.cons_append, relativeComponents_cons _ dot]
        exact lengthened_componentsOfParts (part :: front) filled long

/-- The last component is all that changes if the spelling goes on to its end. -/
theorem lengthened_ofChars_append {letters : List Char} (ends : EndsInComponent letters)
    (plain : '/' ∉ ending) (long : 2 < ending.length) :
    Lengthened ending (ofChars letters).components (ofChars (letters ++ ending)).components := by
  obtain ⟨final, isLast, notEmpty, notDot⟩ := ends
  have filled : ¬(final = [] ∨ final = ['.']) := by simp [notEmpty, notDot]
  by_cases absolute : letters.head? = some '/'
  · obtain ⟨rest, rfl⟩ : ∃ rest, letters = '/' :: rest := by
      cases letters with
      | nil => simp at absolute
      | cons letter rest => exact ⟨rest, by simpa using absolute⟩
    obtain ⟨front, last, found, longer⟩ := splitOn_append rest plain
    have parts : ('/' :: rest).splitOn '/' = ([] :: front) ++ [last] := by
      simp [List.splitOn_cons_eq_if_modifyHead, found]
    rw [parts, List.getLast?_concat] at isLast
    obtain rfl : last = final := by simpa using isLast
    rw [List.cons_append, components_ofChars_root, components_ofChars_root, found, longer]
    exact (lengthened_componentsOfParts front filled long).cons .root
  · have stillRelative : (letters ++ ending).head? ≠ some '/' := by
      cases letters with
      | nil => exact fun slash => plain (List.mem_of_mem_head? slash)
      | cons letter rest => exact absolute
    obtain ⟨front, last, found, longer⟩ := splitOn_append letters plain
    obtain rfl : last = final := by simpa [found] using isLast
    rw [components_ofChars_relative absolute, components_ofChars_relative stillRelative,
      found, longer]
    exact lengthened_relativeComponents front filled long

theorem lengthened_extend {text : String} (ends : EndsInComponent text.toList)
    (plain : '/' ∉ ending) (long : 2 < ending.length) :
    Lengthened ending (ofString text).components ((ofString text).extend ending).components := by
  unfold ofString extend
  rw [letters_ofChars]
  exact lengthened_ofChars_append ends plain long

/-- What lies right above a path is named by its components. -/
theorem parent_eq_of_components {path : Path} {base : List Component} {component : Component}
    (notRoot : component ≠ .root) (ends : path.components = base ++ [component]) :
    ∃ parent, path.parent = some parent ∧ parent.components = base := by
  obtain ⟨steps, tail⟩ := path
  rcases steps.eq_nil_or_concat with rfl | ⟨above, ⟨gap, final⟩, rfl⟩
  · simp [components] at ends
  · obtain ⟨rfl, rfl⟩ : above.map Step.component = base ∧ final = component := by
      simpa [components] using ends
    refine ⟨⟨above, []⟩, ?_, rfl⟩
    cases final <;> simp [parent] at notRoot ⊢

/-- A longer spelling of the last component stays in the same directory. -/
theorem Lengthened.parent {path other place : Path}
    (lengthened : Lengthened ending path.components other.components)
    (above : path.parent = some place) :
    ∃ parent, other.parent = some parent ∧ parent.components = place.components := by
  obtain ⟨base, component, notRoot, pathEnds, otherEnds⟩ := lengthened
  obtain ⟨directory, isParent, directoryEq⟩ := parent_eq_of_components notRoot pathEnds
  obtain rfl : directory = place := Option.some.inj (isParent.symm.trans above)
  rw [directoryEq]
  exact parent_eq_of_components (by simp) otherEnds

end Lengthened

end SelfUpdate.Path
