import SelfUpdate.FileSystem.Disk.Basic
import SelfUpdate.Proofs.Path.Spelling
import SelfUpdate.Proofs.Text.Segments

/-!
# The places that absolute paths name

A path is plain if it begins at the root, goes on from name to name, and has nothing but
slashes behind the last one.  Between two names there are slashes, and dots between these.
So the names are what is left of the spelling if it is split at the slashes, and they are
the components as well.  All ancestors of a plain path are plain, and name the places on the
way.
-/

namespace SelfUpdate

open Disk

theorem byteCount_append (front back : List Char) :
    byteCount (front ++ back) = byteCount front + byteCount back := by
  induction front with
  | nil => simp [byteCount]
  | cons letter front ih =>
      simp only [byteCount, List.cons_append, List.map_cons, List.foldr_cons] at ih ⊢
      rw [ih, Nat.add_assoc]

section Parts

theorem parts_append (front back : List Char) :
    parts (front ++ '/' :: back) = parts front ++ parts back := by
  rw [parts, List.splitOn_append_cons_self, List.filter_append, parts, parts]

@[simp]
theorem parts_nil : parts [] = [] := by
  simp [parts]

/-- What may stand between two names: slashes, and dots between them. -/
structure IsGap (letters : List Char) : Prop where
  begins : letters.head? = some '/'
  ends : letters.getLast? = some '/'
  dots : ∀ part ∈ parts letters, part = ['.']

/-- A name that a file can have. -/
structure IsName (letters : List Char) : Prop where
  notEmpty : letters ≠ []
  notCurrent : letters ≠ ['.']
  notParent : letters ≠ ['.', '.']
  noSlash : '/' ∉ letters
  short : byteCount letters ≤ maxName

theorem parts_of_isName {name : List Char} (isName : IsName name) : parts name = [name] := by
  simp [parts, List.splitOn_eq_singleton isName.noSlash, isName.notEmpty]

theorem parts_of_slashes {letters : List Char} (slashes : ∀ letter ∈ letters, letter = '/') :
    parts letters = [] := by
  induction letters with
  | nil => exact parts_nil
  | cons letter letters ih =>
      obtain rfl := slashes letter List.mem_cons_self
      have rest := ih fun other member => slashes other (List.mem_cons_of_mem _ member)
      rw [← List.nil_append ('/' :: letters), parts_append, rest, parts_nil]
      rfl

theorem isGap_of_slashes {letters : List Char} (notEmpty : letters ≠ [])
    (slashes : ∀ letter ∈ letters, letter = '/') : IsGap letters where
  begins := by
    rw [List.head?_eq_some_head notEmpty, slashes _ (List.head_mem notEmpty)]
  ends := by
    rw [List.getLast?_eq_some_getLast notEmpty, slashes _ (List.getLast_mem notEmpty)]
  dots := by simp [parts_of_slashes slashes]

theorem parts_append_slashes (front : List Char) {slashes : List Char}
    (areSlashes : ∀ letter ∈ slashes, letter = '/') : parts (front ++ slashes) = parts front := by
  cases slashes with
  | nil => rw [List.append_nil]
  | cons letter slashes =>
      obtain rfl := areSlashes letter List.mem_cons_self
      have rest : parts slashes = [] :=
        parts_of_slashes fun other member => areSlashes other (List.mem_cons_of_mem _ member)
      rw [parts_append, rest, List.append_nil]

theorem IsGap.append_void {gap part : List Char} (isGap : IsGap gap)
    (void : part = [] ∨ part = ['.']) : IsGap (gap ++ part ++ ['/']) where
  begins := by simp [isGap.begins]
  ends := by simp
  dots := by
    obtain ⟨before, rfl⟩ := List.getLast?_eq_some_iff.mp isGap.ends
    have dots := isGap.dots
    have whole : before ++ ['/'] ++ part ++ ['/'] = (before ++ '/' :: part) ++ '/' :: [] := by simp
    have partDots : ∀ other ∈ parts part, other = ['.'] := by
      rcases void with rfl | rfl
      · simp
      · decide
    rw [parts_append, parts_nil, List.append_nil] at dots
    rw [whole, parts_append, parts_append, parts_nil, List.append_nil]
    intro other member
    exact (List.mem_append.mp member).elim (dots other) (partDots other)

/-- A name behind a gap is one more part, with dots in front of it. -/
theorem parts_append_gap (front : List Char) {gap name : List Char} (isGap : IsGap gap)
    (isName : IsName name) :
    ∃ dots, (∀ part ∈ dots, part = ['.']) ∧
      parts (front ++ gap ++ name) = parts front ++ dots ++ [name] := by
  obtain ⟨before, rfl⟩ := List.getLast?_eq_some_iff.mp isGap.ends
  have whole : front ++ (before ++ ['/']) ++ name = (front ++ before) ++ '/' :: name := by simp
  have dots := isGap.dots
  rw [parts_append, parts_nil, List.append_nil] at dots
  rw [whole, parts_append, parts_of_isName isName]
  cases before with
  | nil => exact ⟨[], by simp⟩
  | cons letter before =>
      obtain rfl : letter = '/' := by simpa using isGap.begins
      refine ⟨parts before, fun part member => dots part ?_, by rw [parts_append]⟩
      rw [← List.nil_append ('/' :: before), parts_append, parts_nil]
      exact member

end Parts

namespace Path

/-- The slash of the root counts for the gap in front of the first name. -/
def rootSlash (place : Place) : List Char :=
  if place = [] then ['/'] else []

/-- The steps of a path, last first, lead to a place. -/
inductive Trail : List Step → Place → Prop where
  | root : Trail [⟨[], .root⟩] []
  | name {steps : List Step} {place : Place} {gap letters : List Char}
      (before : Trail steps place) (isGap : IsGap (rootSlash place ++ gap))
      (isName : IsName letters) : Trail (⟨gap, .name letters⟩ :: steps) (place ++ [letters])

section Trail

variable {steps : List Step} {place : Place}

theorem Trail.components (trail : Trail steps place) :
    steps.reverse.map Step.component = .root :: place.map .name := by
  induction trail with
  | root => rfl
  | name before isGap isName ih => simp [ih]

theorem Trail.eq_root (trail : Trail steps place) (isRoot : place = []) :
    steps = [⟨[], .root⟩] := by
  cases trail with
  | root => rfl
  | name before isGap isName => simp at isRoot

theorem Trail.isName (trail : Trail steps place) : ∀ name ∈ place, IsName name := by
  induction trail with
  | root => simp
  | name before isGap isName ih =>
      intro name member
      rcases List.mem_append.mp member with earlier | last
      · exact ih name earlier
      · rwa [List.mem_singleton.mp last]

theorem letters_append_step (steps : List Step) (step : Step) (tail : List Char) :
    Path.letters ⟨steps ++ [step], tail⟩ =
      Path.letters ⟨steps, []⟩ ++ step.gap ++ step.component.letters ++ tail := by
  simp [Path.letters]

/-- The spelling of a trail is a gap and a name behind the spelling of what is before. -/
theorem Trail.letters_name (before : Trail steps place) (gap name : List Char) :
    ∃ front, Path.letters ⟨(⟨gap, .name name⟩ :: steps).reverse, []⟩ =
        front ++ (rootSlash place ++ gap) ++ name ∧
      (front ++ rootSlash place = Path.letters ⟨steps.reverse, []⟩) := by
  rw [List.reverse_cons, letters_append_step, List.append_nil]
  by_cases isRoot : place = []
  · rw [before.eq_root isRoot]
    exact ⟨[], by simp [rootSlash, isRoot, Path.letters, Component.letters]⟩
  · exact ⟨Path.letters ⟨steps.reverse, []⟩, by simp [rootSlash, isRoot, Component.letters]⟩

theorem Trail.parts (trail : Trail steps place) :
    (Disk.parts (Path.letters ⟨steps.reverse, []⟩)).filter (· ≠ ['.']) = place ∧
      (Disk.parts (Path.letters ⟨steps.reverse, []⟩)).getLast? ≠ some ['.'] := by
  induction trail with
  | root => decide
  | @name steps place gap letters before isGap isName ih =>
      obtain ⟨front, spelled, same⟩ := before.letters_name gap letters
      obtain ⟨dots, areDots, parts⟩ := parts_append_gap front isGap isName
      have frontParts : (Disk.parts front).filter (· ≠ ['.']) = place := by
        rw [← ih.1, ← same, rootSlash]
        split
        · rw [parts_append, parts_nil, List.append_nil]
        · rw [List.append_nil]
      have noDots : dots.filter (· ≠ ['.']) = [] := by
        simpa using areDots
      rw [spelled, parts]
      constructor
      · rw [List.filter_append, List.filter_append, frontParts, noDots]
        simp [isName.notCurrent]
      · simpa using isName.notCurrent

theorem Trail.head?_letters (trail : Trail steps place) :
    (Path.letters ⟨steps.reverse, []⟩).head? = some '/' := by
  induction trail with
  | root => rfl
  | name before isGap isName ih =>
      rw [List.reverse_cons, letters_append_step]
      simp [ih]

theorem Trail.getLast?_letters {name : List Char} (trail : Trail steps (place ++ [name])) :
    ∃ letter ∈ name, (Path.letters ⟨steps.reverse, []⟩).getLast? = some letter := by
  generalize below : place ++ [name] = whole at trail
  cases trail with
  | root => simp at below
  | @name steps place' gap letters before isGap isName =>
      obtain ⟨-, rfl⟩ : place = place' ∧ name = letters := by simpa using below
      refine ⟨name.getLast isName.notEmpty, List.getLast_mem _, ?_⟩
      rw [List.reverse_cons, letters_append_step]
      simp [Component.letters, List.getLast?_append, List.getLast?_eq_some_getLast isName.notEmpty]

end Trail

/-- A path that leads from the root from name to name, with nothing but slashes behind the
last, and that the system accepts. -/
structure Plain (path : Path) (place : Place) : Prop where
  trail : Trail path.steps.reverse place
  slashes : ∀ letter ∈ path.tail, letter = '/'
  short : byteCount path.letters ≤ maxPath
  noNul : '\x00' ∉ path.letters

/-- The names of components that are nothing else. -/
def namesOf : List Component → Option Place
  | [] => some []
  | .name letters :: rest => (namesOf rest).map (letters :: ·)
  | _ :: _ => none

/-- The place that a path names, going by its components. -/
def place? (path : Path) : Option Place :=
  match path.components with
  | .root :: rest => namesOf rest
  | _ => none

theorem namesOf_eq_some_iff {components : List Component} {place : Place} :
    namesOf components = some place ↔ components = place.map .name := by
  induction components generalizing place with
  | nil => cases place <;> simp [namesOf]
  | cons component components ih =>
      cases component with
      | name letters =>
          cases place with
          | nil => simp [namesOf]
          | cons name place => simp [namesOf, ih, and_comm]
      | root => cases place <;> simp [namesOf]
      | current => cases place <;> simp [namesOf]
      | parent => cases place <;> simp [namesOf]

theorem place?_eq_some_iff {path : Path} {place : Place} :
    path.place? = some place ↔ path.components = .root :: place.map .name := by
  unfold place?
  split
  · next rest same => rw [namesOf_eq_some_iff, same, List.cons.injEq, eq_self, true_and]
  · next other =>
      simp only [reduceCtorEq, false_iff]
      exact fun same => other _ same

section Plain

variable {path : Path} {place : Place}

theorem Plain.components (plain : path.Plain place) :
    path.components = .root :: place.map .name := by
  simpa [Path.components] using plain.trail.components

theorem Plain.place? (plain : path.Plain place) : path.place? = some place :=
  place?_eq_some_iff.mpr plain.components

theorem Plain.isEmpty (plain : path.Plain place) : path.isEmpty = false := by
  have components := plain.components
  cases steps : path.steps with
  | nil => simp [Path.components, steps] at components
  | cons step rest => simp [Path.isEmpty, steps]

/-- The root has nothing above it. -/
theorem Plain.root (plain : path.Plain []) : path.parent = none ∧ path.ancestors = [path] := by
  have steps := plain.trail.eq_root rfl
  simp [Path.parent, Path.ancestors, steps, ancestorsOfReversed]

/-- Right above a place that is not the root lies the directory that it is in. -/
theorem Plain.above {name : List Char} (plain : path.Plain (place ++ [name])) :
    ∃ parent : Path, path.parent = some parent ∧ parent.Plain place ∧
      path.ancestors = path :: parent.ancestors ∧ IsName name := by
  obtain ⟨trail, slashes, short, noNul⟩ := plain
  generalize steps : path.steps.reverse = reversed at trail
  generalize below : place ++ [name] = whole at trail
  cases trail with
  | root => simp at below
  | @name steps' place' gap letters before isGap isName =>
      obtain ⟨rfl, rfl⟩ : place = place' ∧ name = letters := by simpa using below
      have spelled : path.letters =
          Path.letters ⟨steps'.reverse, []⟩ ++ (gap ++ name ++ path.tail) := by
        have same : path = ⟨steps'.reverse ++ [⟨gap, .name name⟩], path.tail⟩ := by
          rw [← List.reverse_cons, ← steps, List.reverse_reverse]
        rw [same, letters_append_step]
        simp [Component.letters]
      refine ⟨⟨steps'.reverse, []⟩, by simp [parent, steps], ⟨?_, by simp, ?_, ?_⟩, ?_, isName⟩
      · rw [List.reverse_reverse]
        exact before
      · rw [spelled, byteCount_append] at short
        exact Nat.le_trans (Nat.le_add_right _ _) short
      · rw [spelled, List.mem_append, not_or] at noNul
        exact noNul.1
      · simp [ancestors, steps, ancestorsOfReversed]

/-- The ancestors of a path name the places on the way to it. -/
theorem Plain.exists_ancestor_iff (plain : path.Plain place) (components : List Component) :
    (∃ ancestor ∈ path.ancestors, components = ancestor.components) ↔
      ∃ above, above <+: place ∧ components = .root :: above.map .name := by
  induction place using List.reverseRecOn generalizing path with
  | nil => simp [plain.root.2, plain.components]
  | append_singleton place name ih =>
      obtain ⟨parent, -, parentPlain, ancestors, -⟩ := plain.above
      simp only [ancestors, List.mem_cons, exists_eq_or_imp, ih parentPlain, plain.components,
        List.prefix_concat_iff]

theorem Plain.isName (plain : path.Plain place) : ∀ name ∈ place, IsName name :=
  plain.trail.isName

theorem letters_eq_append_tail (path : Path) :
    path.letters = Path.letters ⟨path.steps.reverse.reverse, []⟩ ++ path.tail := by
  simp [Path.letters]

/-- The parts of a plain path are its names, and dots that are not last. -/
theorem Plain.parts (plain : path.Plain place) :
    (Disk.parts path.letters).filter (· ≠ ['.']) = place ∧
      (Disk.parts path.letters).getLast? ≠ some ['.'] := by
  rw [letters_eq_append_tail, parts_append_slashes _ plain.slashes]
  exact plain.trail.parts

theorem Plain.fromRoot (plain : path.Plain place) : fromRoot path.letters = true := by
  have first : (Path.letters ⟨path.steps.reverse.reverse, []⟩).head? = some '/' :=
    plain.trail.head?_letters
  rw [Disk.fromRoot, letters_eq_append_tail, List.head?_append, first]
  rfl

/-- A plain path means a directory if it is that of the root or ends in a slash. -/
theorem Plain.meansDirectory_iff (plain : path.Plain place) :
    meansDirectory path.letters = true ↔ place = [] ∨ path.tail ≠ [] := by
  rw [meansDirectory, beq_iff_eq, letters_eq_append_tail, List.getLast?_append]
  by_cases noTail : path.tail = []
  · rw [noTail, List.getLast?_nil, Option.none_or]
    rcases List.eq_nil_or_concat' place with rfl | ⟨above, name, rfl⟩
    · simp [plain.trail.eq_root rfl, Path.letters, Component.letters]
    · obtain ⟨letter, member, last⟩ := plain.trail.getLast?_letters
      have isName := plain.isName name (by simp)
      rw [last]
      simpa using fun same : letter = '/' => isName.noSlash (same ▸ member)
  · rw [(isGap_of_slashes noTail plain.slashes).ends]
    simp [noTail]

theorem Plain.joint_eq (plain : path.Plain place) :
    path.joint = if meansDirectory path.letters = true then [] else ['/'] := by
  have notEmpty : path.letters.getLast? ≠ none := by
    intro nothing
    have fromRoot := plain.fromRoot
    rw [List.getLast?_eq_none_iff.mp nothing] at fromRoot
    exact absurd fromRoot (by decide)
  simp only [meansDirectory, beq_iff_eq, joint]
  split
  · next nothing => exact absurd nothing notEmpty
  · next slash => rw [if_pos slash]
  · next _ letter notSlash last => rw [last, if_neg (by simpa using notSlash)]

/-- A name below a plain path leads to a plain path. -/
theorem Plain.child (plain : path.Plain place) {name : List Char} (isName : IsName name)
    (short : byteCount (path.child name).letters ≤ maxPath)
    (noNul : '\x00' ∉ (path.child name).letters) :
    (path.child name).Plain (place ++ [name]) := by
  have isGap : IsGap (rootSlash place ++ (path.tail ++ path.joint)) := by
    refine isGap_of_slashes ?_ ?_
    · intro nothing
      obtain ⟨noRoot, noTail, noJoint⟩ : rootSlash place = [] ∧ path.tail = [] ∧
          path.joint = [] := by simpa using nothing
      have below : place ≠ [] := by
        rintro rfl
        simp [rootSlash] at noRoot
      have open' : ¬meansDirectory path.letters = true := by
        rw [plain.meansDirectory_iff]
        simp [below, noTail]
      rw [plain.joint_eq, if_neg open'] at noJoint
      simp at noJoint
    · intro letter member
      simp only [List.mem_append, plain.joint_eq, rootSlash] at member
      rcases member with root | tail | joint
      · split at root <;> simp_all
      · exact plain.slashes letter tail
      · split at joint <;> simp_all
  refine ⟨?_, by simp [Path.child], short, noNul⟩
  rw [Path.child, List.reverse_append]
  exact .name plain.trail isGap isName

/-- The path of an entry is plain only below a plain path. -/
theorem Plain.of_child {name : List Char} (plain : (path.child name).Plain place) :
    ∃ above, place = above ++ [name] ∧ (path.child name).parent = some ⟨path.steps, []⟩ ∧
      Plain ⟨path.steps, []⟩ above := by
  have isParent : (path.child name).parent = some ⟨path.steps, []⟩ := by
    simp [Path.child, parent]
  rcases List.eq_nil_or_concat' place with rfl | ⟨above, last, rfl⟩
  · simp [plain.root.1] at isParent
  obtain ⟨other, isOther, otherPlain, -⟩ := plain.above
  obtain rfl : other = ⟨path.steps, []⟩ := by simpa [isParent] using isOther.symm
  have components := plain.components
  have same : path.components = .root :: above.map .name := otherPlain.components
  rw [components_child, same] at components
  obtain rfl : name = last := by simpa using components
  exact ⟨above, rfl, isParent, otherPlain⟩

end Plain

section Text

/-- What is needed of a text so that it spells a plain path. -/
structure PlainText (letters : List Char) : Prop where
  absolute : letters.head? = some '/'
  notAbove : ['.', '.'] ∉ Disk.parts letters
  shortNames : ∀ part ∈ Disk.parts letters, byteCount part ≤ maxName
  slashes : (ofChars letters).tail.all (· == '/') = true
  short : byteCount letters ≤ maxPath
  noNul : '\x00' ∉ letters

theorem trail_readParts {steps : List Step} {place : Place} (gap : List Char)
    (trail : Trail steps place) (isGap : IsGap (rootSlash place ++ gap))
    (parts : List (List Char))
    (names : ∀ part ∈ parts, part ≠ ['.', '.'] ∧ '/' ∉ part ∧ byteCount part ≤ maxName) :
    ∃ further, Trail ((readParts gap parts).1.reverse ++ steps) (place ++ further) := by
  induction parts generalizing steps place gap with
  | nil => exact ⟨[], by simpa [readParts] using trail⟩
  | cons part parts ih =>
      obtain ⟨notAbove, noSlash, short⟩ := names part List.mem_cons_self
      have later := fun other member => names other (List.mem_cons_of_mem part member)
      by_cases void : part = [] ∨ part = ['.']
      -- A part that names nothing widens the gap in front of the next name.
      · rw [readParts, if_pos void]
        cases parts with
        | nil => exact ⟨[], by simpa [readParts] using trail⟩
        | cons next parts =>
            refine ih _ trail ?_ later
            simpa using isGap.append_void void
      · rw [readParts, if_neg void]
        have isName : IsName part :=
          ⟨fun empty => void (Or.inl empty), fun dot => void (Or.inr dot), notAbove, noSlash, short⟩
        have isComponent : Component.ofPart part = .name part := by
          simp [Component.ofPart, notAbove]
        have longer := Trail.name trail isGap isName
        have further : ∃ further, Trail ((readParts (if parts.isEmpty then [] else ['/'])
            parts).1.reverse ++ ⟨gap, .name part⟩ :: steps) (place ++ [part] ++ further) := by
          cases parts with
          | nil => exact ⟨[], by simpa [readParts] using longer⟩
          | cons next parts =>
              refine ih _ longer (isGap_of_slashes ?_ ?_) later
              · simp
              · simp [rootSlash]
        obtain ⟨further, whole⟩ := further
        exact ⟨part :: further, by simpa [isComponent] using whole⟩

theorem plain_ofChars {letters : List Char} (text : PlainText letters) :
    ∃ place, (ofChars letters).Plain place := by
  obtain ⟨rest, rfl⟩ : ∃ rest, letters = '/' :: rest := by
    cases letters with
    | nil => simpa using text.absolute
    | cons letter rest => exact ⟨rest, by simpa using text.absolute⟩
  have parts : Disk.parts ('/' :: rest) = Disk.parts rest := by
    rw [← List.nil_append ('/' :: rest), parts_append, parts_nil, List.nil_append]
  have names : ∀ part ∈ rest.splitOn '/',
      part ≠ ['.', '.'] ∧ '/' ∉ part ∧ byteCount part ≤ maxName := by
    intro part member
    refine ⟨?_, not_mem_of_mem_splitOn member, ?_⟩
    · rintro rfl
      refine text.notAbove ?_
      rw [parts]
      exact List.mem_filter.mpr ⟨member, by decide⟩
    · by_cases empty : part = []
      · simp [empty, byteCount]
      · refine text.shortNames part ?_
        rw [parts]
        exact List.mem_filter.mpr ⟨member, by simpa using empty⟩
  have isGap : IsGap (rootSlash [] ++ []) :=
    isGap_of_slashes (by simp [rootSlash]) (by simp [rootSlash])
  obtain ⟨place, trail⟩ := trail_readParts [] .root isGap (rest.splitOn '/') names
  refine ⟨place, ?_, by simpa using text.slashes, ?_, ?_⟩
  · simpa [ofChars] using trail
  · rw [letters_ofChars]
    exact text.short
  · rw [letters_ofChars]
    exact text.noNul

theorem plain_ofString {text : String} {place : Place} (spelled : PlainText text.toList)
    (named : (ofString text).place? = some place) : (ofString text).Plain place := by
  obtain ⟨other, plain⟩ := plain_ofChars spelled
  have same : some other = some place := plain.place?.symm.trans named
  rwa [← Option.some.inj same]

end Text

end Path

end SelfUpdate
