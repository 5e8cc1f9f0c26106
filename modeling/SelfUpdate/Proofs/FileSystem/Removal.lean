import SelfUpdate.Proofs.FileSystem.Entries
import SelfUpdate.Proofs.Path.Prefixes

/-!
# Removing a directory with all that is below it

What is entered, moved or taken away below a place leaves no trace when that place is removed
afterwards.  Directories made on the way there are no exception if everything above the place
is there already.

So a directory that is made where nothing was, and removed again, leaves the tree as it was,
with the directories above it that were missing.
-/

namespace SelfUpdate

namespace Tree

variable (tree : Tree) {base path other : Path} {node : Node}

theorem eraseBelow_insert (within : path.liesIn base = true) (node : Node) :
    (tree.insert path node).eraseBelow base = tree.eraseBelow base :=
  congrArg Tree.mk (filter_insertEntry (fun place => !base.components.isPrefixOf place)
    (by simpa using within))

theorem eraseBelow_erase (within : path.liesIn base = true) :
    (tree.erase path).eraseBelow base = tree.eraseBelow base := by
  refine congrArg Tree.mk ?_
  rw [erase, List.filter_filter]
  refine List.filter_congr fun entry _ => ?_
  cases same : entry.path.sameAs path with
  | false => simp
  | true =>
      have inside : entry.path.liesIn base = true := by
        rwa [Path.liesIn, (Path.sameAs_iff _ _).mp same, ← Path.liesIn]
      simp [inside]

theorem eraseBelow_eraseBelow (within : path.liesIn base = true) :
    (tree.eraseBelow path).eraseBelow base = tree.eraseBelow base := by
  refine congrArg Tree.mk ?_
  rw [eraseBelow, List.filter_filter]
  refine List.filter_congr fun entry _ => ?_
  cases inside : entry.path.liesIn path with
  | false => simp
  | true =>
      rw [Path.liesIn_iff] at within inside
      have below : entry.path.liesIn base = true := (Path.liesIn_iff _ _).mpr (within.trans inside)
      simp [below]

theorem eraseBelow_comm (base other : Path) :
    (tree.eraseBelow base).eraseBelow other = (tree.eraseBelow other).eraseBelow base :=
  congrArg Tree.mk (List.filter_comm _ _ _)

section Directories

variable {tree}

theorem eraseBelow_ensureDirectory
    (either : path.liesIn base = true ∨ tree.find? path ≠ none) :
    (tree.ensureDirectory path).eraseBelow base = tree.eraseBelow base := by
  unfold ensureDirectory
  split
  · rfl
  · next missing =>
      exact tree.eraseBelow_insert (either.resolve_right fun found => found missing) .directory

theorem eraseBelow_foldl_ensureDirectory {paths : List Path}
    (either : ∀ path ∈ paths, path.liesIn base = true ∨ tree.find? path ≠ none) :
    (paths.foldl ensureDirectory tree).eraseBelow base = tree.eraseBelow base := by
  induction paths generalizing tree with
  | nil => rfl
  | cons path paths ih =>
      rw [List.foldl_cons, ih, eraseBelow_ensureDirectory (either path List.mem_cons_self)]
      intro other member
      refine (either other (List.mem_cons_of_mem path member)).imp_right fun found => ?_
      rw [find?_ensureDirectory]
      split <;> simp [found]

theorem ensureDirectory_insert (apart : path.components ≠ other.components) (node : Node) :
    (tree.insert other node).ensureDirectory path =
      (tree.ensureDirectory path).insert other node := by
  unfold ensureDirectory
  rw [find?_insert, if_neg apart]
  split
  · rfl
  · exact tree.insert_comm apart .directory node

theorem foldl_ensureDirectory_insert {paths : List Path}
    (apart : ∀ path ∈ paths, path.components ≠ other.components) (node : Node) :
    paths.foldl ensureDirectory (tree.insert other node) =
      (paths.foldl ensureDirectory tree).insert other node := by
  induction paths generalizing tree with
  | nil => rfl
  | cons path paths ih =>
      rw [List.foldl_cons, List.foldl_cons, ensureDirectory_insert (apart path List.mem_cons_self),
        ih fun other member => apart other (List.mem_cons_of_mem path member)]

end Directories

end Tree

namespace Memory

section Laws

variable (memory : Memory) (path other : Path)

theorem removeAll_eq_filter :
    memory.removeAll path = { memory with
      tree := ⟨memory.tree.entries.filter fun entry =>
        ¬path.components <+: entry.path.components⟩ } := by
  have sameTest (entry : Entry) : (!entry.path.liesIn path) =
      decide (¬path.components <+: entry.path.components) := by
    simp [← Path.liesIn_iff]
  simp only [removeAll, Tree.eraseBelow, sameTest]

theorem removeAll_removeAll : (memory.removeAll path).removeAll path = memory.removeAll path := by
  simp only [removeAll, memory.tree.eraseBelow_eraseBelow (Path.liesIn_of_components_eq rfl)]

theorem removeAll_comm :
    (memory.removeAll path).removeAll other = (memory.removeAll other).removeAll path := by
  simp only [removeAll, memory.tree.eraseBelow_comm path other]

theorem find?_removeAll_of_neighbour {letters ending : List Char}
    (ends : Path.EndsInComponent letters) (plain : '/' ∉ ending) (longer : ending ≠ [])
    (beside : other.liesIn (.ofChars (letters ++ ending)) = true) :
    (memory.removeAll (.ofChars letters)).tree.find? other = memory.tree.find? other :=
  find?_removeAll_of_outside
    (Bool.eq_false_iff.mp (Path.not_liesIn_of_neighbour ends plain longer beside))

end Laws

variable {memory : Memory} {path place other : Path}

/-- The memory with the directories above a path, made where nothing was. -/
def createAbove (memory : Memory) (path : Path) : Memory :=
  match path.parent with
  | some parent => memory.createDirectory parent
  | none => memory

theorem createAbove_eq (memory : Memory) (path : Path) :
    memory.createAbove path = { memory with
      tree := (path.above.filter fun ancestor => !ancestor.isEmpty).foldl Tree.ensureDirectory
        memory.tree } := by
  unfold createAbove Path.above
  cases path.parent <;> rfl

theorem createDirectory_eq_insert (filled : path.isEmpty = false)
    (vacant : memory.tree.find? path = none) :
    memory.createDirectory path =
      { memory with tree := (memory.createAbove path).tree.insert path .directory } := by
  -- The directory itself is made first, and can as well be made last.
  have apart : ∀ ancestor ∈ path.above.filter fun ancestor => !ancestor.isEmpty,
      ancestor.components ≠ path.components := by
    intro ancestor member same
    have outside := Path.not_liesIn_of_mem_above (List.mem_filter.mp member).1
    exact Bool.eq_false_iff.mp outside (Path.liesIn_of_components_eq same)
  have made : memory.tree.ensureDirectory path = memory.tree.insert path .directory := by
    rw [Tree.ensureDirectory, vacant]
  simp only [createDirectory, createAbove_eq, Path.ancestors_eq, List.filter_cons, filled,
    Bool.not_false, if_true, List.foldl_cons, made, Tree.foldl_ensureDirectory_insert apart]

theorem find?_createAbove_of_liesIn (within : other.liesIn path = true) :
    (memory.createAbove path).tree.find? other = memory.tree.find? other := by
  rw [createAbove_eq, Tree.find?_foldl_ensureDirectory, if_neg]
  rintro ⟨⟨ancestor, member, same⟩, -⟩
  have outside := Path.not_liesIn_of_mem_above (List.mem_filter.mp member).1
  rw [Path.liesIn, same, ← Path.liesIn, outside] at within
  simp at within

/-- A directory that is made where nothing was, and removed, leaves only those above it. -/
theorem removeAll_createDirectory
    (vacant : ∀ other, other.liesIn path = true → memory.tree.find? other = none) :
    (memory.createDirectory path).removeAll path = memory.createAbove path := by
  have vacantAbove : ∀ other, other.liesIn path = true →
      (memory.createAbove path).tree.find? other = none := by
    intro other within
    rw [find?_createAbove_of_liesIn within, vacant other within]
  have kept : { memory with tree := (memory.createAbove path).tree } = memory.createAbove path := by
    rw [createAbove_eq]
  cases empty : path.isEmpty with
  | true =>
      obtain ⟨steps, tail⟩ := path
      obtain rfl : steps = [] := List.isEmpty_iff.mp empty
      have unchanged : memory.createDirectory ⟨[], tail⟩ = memory := rfl
      have unchangedAbove : memory.createAbove ⟨[], tail⟩ = memory := rfl
      rw [unchanged, unchangedAbove, removeAll, memory.tree.eraseBelow_of_absent vacant]
  | false =>
      have self : path.liesIn path = true := Path.liesIn_of_components_eq rfl
      rw [createDirectory_eq_insert empty (vacant path self), removeAll]
      simp only [Tree.eraseBelow_insert _ self, Tree.eraseBelow_of_absent _ vacantAbove, kept]

theorem find?_createAbove (rooted : path.RootInFront) :
    (memory.createAbove path).tree.find? other =
      if (other.components <+: path.components ∧ other.components ≠ [] ∧
        other.components ≠ path.components) ∧ memory.tree.find? other = none then some .directory
      else memory.tree.find? other := by
  have same : (∃ ancestor ∈ path.above.filter fun ancestor => !ancestor.isEmpty,
      other.components = ancestor.components) ↔
        other.components <+: path.components ∧ other.components ≠ [] ∧
          other.components ≠ path.components := by
    rw [← Path.exists_above_iff rooted]
    simp [and_assoc]
  simp only [createAbove_eq, Tree.find?_foldl_ensureDirectory, same]

theorem find?_createDirectory_ne_none (rooted : path.RootInFront)
    (above : other.components <+: path.components) (notEmpty : other.components ≠ []) :
    (memory.createDirectory path).tree.find? other ≠ none := by
  classical
  have made : MadeAlong path other := (Path.exists_ancestor_iff rooted).mpr ⟨above, notEmpty⟩
  rw [find?_createDirectory]
  split
  · simp
  · next found => exact fun missing => found ⟨made, missing⟩

section Confined

/-- Something is at every place above a path. -/
def HoldsAbove (memory : Memory) (path : Path) : Prop :=
  ∀ other : Path, other.components <+: path.components → other.components ≠ [] →
    other.liesIn path = false → memory.tree.find? other ≠ none

/-- What is at the path and below it does not matter to what is above. -/
theorem HoldsAbove.congr {later : Memory} (above : memory.HoldsAbove path)
    (same : later.tree.eraseBelow path = memory.tree.eraseBelow path) :
    later.HoldsAbove path := by
  intro other isPrefix notEmpty outside
  have found := above other isPrefix notEmpty outside
  have kept := congrArg (fun tree => tree.find? other) same
  simp only [Tree.find?_eraseBelow, outside, Bool.false_eq_true, if_false] at kept
  rwa [kept]

theorem holdsAbove_createDirectory (rooted : path.RootInFront) :
    (memory.createDirectory path).HoldsAbove path :=
  fun _ isPrefix notEmpty _ => find?_createDirectory_ne_none rooted isPrefix notEmpty

theorem eraseBelow_createDirectory (above : memory.HoldsAbove path)
    (within : place.liesIn path = true) :
    (memory.createDirectory place).tree.eraseBelow path = memory.tree.eraseBelow path := by
  refine Tree.eraseBelow_foldl_ensureDirectory fun ancestor member => ?_
  obtain ⟨isAncestor, filled⟩ := List.mem_filter.mp member
  have notEmpty : ancestor.components ≠ [] := by
    simpa [Path.isEmpty, Path.components] using filled
  -- Each directory on the way is in the path, or it is above the path and there already.
  cases inside : ancestor.liesIn path with
  | true => exact Or.inl rfl
  | false =>
      right
      rw [Path.liesIn_iff] at within
      rcases List.prefix_or_prefix_of_prefix within (Path.isPrefix_of_mem_ancestors isAncestor)
        with below | atop
      · exact absurd ((Path.liesIn_iff _ _).mpr below) (Bool.eq_false_iff.mp inside)
      · exact above ancestor atop notEmpty inside

theorem eraseBelow_create {mode : UInt32} (within : place.liesIn path = true) :
    (memory.create place mode).2.tree.eraseBelow path = memory.tree.eraseBelow path := by
  unfold create
  split
  · rfl
  · exact memory.tree.eraseBelow_insert within _

theorem eraseBelow_write {writer : Writer} {bytes : Bytes}
    (within : writer.path.liesIn path = true) :
    (memory.write writer bytes).2.tree.eraseBelow path = memory.tree.eraseBelow path := by
  unfold write
  split
  · rfl
  · split
    · exact memory.tree.eraseBelow_insert within _
    · rfl

theorem eraseBelow_rename {host : Host} {source target : Path}
    (sourceWithin : source.liesIn path = true) (targetWithin : target.liesIn path = true) :
    (memory.rename host source target).2.tree.eraseBelow path = memory.tree.eraseBelow path := by
  unfold rename
  split
  · rfl
  · split
    · rfl
    · split
      · rfl
      · rw [Tree.eraseBelow_insert _ targetWithin, Tree.eraseBelow_erase _ sourceWithin]

end Confined

end Memory

end SelfUpdate
