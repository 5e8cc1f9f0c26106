import SelfUpdate.FileSystem.Memory
import SelfUpdate.Proofs.Path.Spelling

/-!
# Looking up nodes after an operation

A tree is known by what is found in it at every path.  Each operation on a tree or
on a file system in memory is described by what is found after it, in terms of what
was found before.  These equations hold of every list of entries, and paths enter
them only through their components.
-/

namespace SelfUpdate

namespace Tree

variable (tree : Tree) (path other : Path) (node : Node)

theorem find?_congr {path other : Path} (same : path.components = other.components) :
    tree.find? path = tree.find? other := by
  simp only [find?, Path.sameAs, same]

/-- Nothing is found below a path if no entry lies there. -/
theorem find?_eq_none_of_entries {base : Path}
    (vacant : ∀ entry ∈ tree.entries, entry.path.liesIn base = false)
    {path : Path} (within : path.liesIn base = true) : tree.find? path = none := by
  have missing : tree.entries.find? (·.path.sameAs path) = none := by
    rw [List.find?_eq_none]
    intro entry member same
    have outside := vacant entry member
    rw [Path.liesIn, (Path.sameAs_iff _ _).mp same, ← Path.liesIn, within] at outside
    exact absurd outside (by decide)
  simp [find?, missing]

private theorem find?_cons (entry : Entry) (entries : List Entry) :
    find? ⟨entry :: entries⟩ path =
      if path.components = entry.path.components then some entry.node
      else find? ⟨entries⟩ path := by
  by_cases same : path.components = entry.path.components
  · simp [find?, same]
  · simp [find?, same, Ne.symm same]

theorem find?_insert :
    (tree.insert path node).find? other =
      if other.components = path.components then some node else tree.find? other := by
  obtain ⟨entries⟩ := tree
  simp only [insert]
  induction entries with
  | nil => rw [insertEntry, find?_cons]
  | cons entry entries ih =>
      by_cases same : entry.path.components = path.components
      · simp only [insertEntry, Path.sameAs_iff, same, if_true, find?_cons]
        split <;> rfl
      · simp only [insertEntry, Path.sameAs_iff, same, if_false]
        split
        · rw [find?_cons]
        · simp only [find?_cons, ih]
          by_cases found : other.components = entry.path.components
          · have apart : ¬other.components = path.components := by rwa [found]
            rw [if_pos found, if_pos found, if_neg apart]
          · rw [if_neg found, if_neg found]

/-- A tree in which only entries that pass a test on their components are left. -/
private theorem find?_filter (test : List Component → Bool) :
    find? ⟨tree.entries.filter fun entry => test entry.path.components⟩ path =
      if test path.components then tree.find? path else none := by
  obtain ⟨entries⟩ := tree
  induction entries with
  | nil => simp [find?]
  | cons entry entries ih =>
      by_cases same : path.components = entry.path.components
      · cases passes : test entry.path.components
        · simpa [List.filter_cons, same, passes] using ih
        · simp [find?_cons, same, passes]
      · cases passes : test entry.path.components
        · simpa [List.filter_cons, find?_cons, same, passes] using ih
        · simpa [List.filter_cons, find?_cons, same, passes] using ih

theorem find?_erase :
    (tree.erase path).find? other =
      if other.components = path.components then none else tree.find? other := by
  have filtered :
      (tree.erase path).find? other =
        if !other.sameAs path then tree.find? other else none :=
    tree.find?_filter other fun place => !(place == path.components)
  by_cases same : other.components = path.components <;> simp [filtered, Path.sameAs, same]

theorem find?_eraseBelow :
    (tree.eraseBelow path).find? other =
      if other.liesIn path then none else tree.find? other := by
  have filtered :
      (tree.eraseBelow path).find? other =
        if !other.liesIn path then tree.find? other else none :=
    tree.find?_filter other fun place => !path.components.isPrefixOf place
  cases within : other.liesIn path <;> simp [filtered, within]

theorem find?_ensureDirectory :
    (tree.ensureDirectory path).find? other =
      if other.components = path.components ∧ tree.find? other = none then some .directory
      else tree.find? other := by
  unfold ensureDirectory
  by_cases same : other.components = path.components
  · rw [tree.find?_congr same]
    split
    · next found => simp [found, tree.find?_congr same]
    · next missing => simp [find?_insert, missing, same]
  · split <;> simp [find?_insert, same]

theorem find?_foldl_ensureDirectory (paths : List Path) :
    (paths.foldl ensureDirectory tree).find? other =
      if (∃ path ∈ paths, other.components = path.components) ∧ tree.find? other = none then
        some .directory
      else tree.find? other := by
  induction paths generalizing tree with
  | nil => simp
  | cons path paths ih =>
      rw [List.foldl_cons, ih, find?_ensureDirectory]
      by_cases same : other.components = path.components <;>
        by_cases missing : tree.find? other = none <;> simp [same, missing]

end Tree

namespace Memory

variable (memory : Memory) (path other : Path)

@[simp]
theorem find?_removeAll :
    (memory.removeAll path).tree.find? other =
      if other.liesIn path then none else memory.tree.find? other :=
  memory.tree.find?_eraseBelow path other

/-- The places at which a directory is made, if nothing is there, along with a path. -/
def MadeAlong (path other : Path) : Prop :=
  ∃ ancestor ∈ path.ancestors, ancestor.isEmpty = false ∧
    other.components = ancestor.components

theorem find?_createDirectory [Decidable (MadeAlong path other)] :
    (memory.createDirectory path).tree.find? other =
      if MadeAlong path other ∧ memory.tree.find? other = none then some .directory
      else memory.tree.find? other := by
  have same : (∃ ancestor ∈ path.ancestors.filter fun ancestor => !ancestor.isEmpty,
      other.components = ancestor.components) ↔ MadeAlong path other := by
    simp [MadeAlong, and_assoc]
  simp only [createDirectory, Tree.find?_foldl_ensureDirectory, same]

variable {memory path other} {node : Node}

/-- A node that is there stays when directories are made. -/
theorem find?_createDirectory_of_some (found : memory.tree.find? other = some node) :
    (memory.createDirectory path).tree.find? other = some node := by
  classical
  rw [find?_createDirectory, if_neg (by simp [found]), found]

theorem MadeAlong.isPrefix (made : MadeAlong path other) :
    other.components <+: path.components := by
  obtain ⟨ancestor, member, -, same⟩ := made
  rw [same]
  exact Path.isPrefix_of_mem_ancestors member

theorem madeAlong_child {name : List Char} :
    MadeAlong (path.child name) other ↔
      other.components = (path.child name).components ∨ MadeAlong path other := by
  obtain ⟨directory, above, steps, ancestors, -, further⟩ := path.ancestors_child name
  have notEmpty : (path.child name).isEmpty = false := by
    simp [Path.isEmpty, Path.child]
  have sameEmpty : directory.isEmpty = path.isEmpty := by
    simp [Path.isEmpty, steps]
  have sameComponents : directory.components = path.components := by
    simp [Path.components, steps]
  simp only [MadeAlong, ancestors, further, List.mem_cons, exists_eq_or_imp, notEmpty,
    sameEmpty, sameComponents, true_and]

/-- Below a directory a file can be created. -/
theorem parentFault_child {name : List Char}
    (directory : memory.tree.find? path = some .directory) :
    memory.parentFault (path.child name) = none := by
  obtain ⟨parent, above, steps, -, parentEq, -⟩ := path.ancestors_child name
  have sameComponents : parent.components = path.components := by
    simp [Path.components, steps]
  simp only [parentFault, parentEq, memory.tree.find?_congr sameComponents, directory]

/-- At most the node at one path has changed, and operations fail as before. -/
structure OnlyAt (path : Path) (before after : Memory) : Prop where
  elsewhere : ∀ other, other.components ≠ path.components →
    after.tree.find? other = before.tree.find? other
  failingWrites : after.failingWrites = before.failingWrites
  failingRenames : after.failingRenames = before.failingRenames

theorem OnlyAt.refl (path : Path) (memory : Memory) : OnlyAt path memory memory :=
  ⟨fun _ _ => rfl, rfl, rfl⟩

theorem OnlyAt.trans {first second third : Memory} (early : OnlyAt path first second)
    (late : OnlyAt path second third) : OnlyAt path first third where
  elsewhere other apart := (late.elsewhere other apart).trans (early.elsewhere other apart)
  failingWrites := late.failingWrites.trans early.failingWrites
  failingRenames := late.failingRenames.trans early.failingRenames

theorem onlyAt_insert (memory : Memory) (path : Path) (node : Node) (created : Nat) :
    OnlyAt path memory
      { memory with tree := memory.tree.insert path node, created := created } where
  elsewhere other apart := by simp only [Tree.find?_insert, if_neg apart]
  failingWrites := rfl
  failingRenames := rfl

/-- A rename within a volume is refused, or it moves the node. -/
theorem rename_cases {host : Host} {source target : Path} {node : Node}
    (staysOnVolume : crossesVolumes host source target = false)
    (found : memory.tree.find? source = some node) :
    memory.rename host source target = (.error .renameRefused, memory) ∨
      ∃ after, memory.rename host source target = (.ok (), after) ∧
        after.tree.find? target = some node ∧
        ∀ other, other.components ≠ target.components → other.components ≠ source.components →
          after.tree.find? other = memory.tree.find? other := by
  cases refused : memory.failingRenames
  · right
    refine ⟨{ memory with tree := (memory.tree.erase source).insert target node }, ?_, ?_, ?_⟩
    · simp [rename, staysOnVolume, refused, found]
    · simp only [Tree.find?_insert, if_true]
    · intro other notTarget notSource
      simp only [Tree.find?_insert, if_neg notTarget, Tree.find?_erase, if_neg notSource]
  · left
    simp [rename, staysOnVolume, refused]

theorem find?_removeAll_of_outside {path other : Path} (outside : ¬other.liesIn path) :
    (memory.removeAll path).tree.find? other = memory.tree.find? other := by
  rw [find?_removeAll, if_neg outside]

theorem find?_addFile_of_ne {content : Bytes} {mode : UInt32}
    (apart : path.components ≠ other.components) (found : memory.tree.find? path = some node) :
    (memory.addFile other content mode).tree.find? path = some node := by
  simp only [addFile, Tree.find?_insert, if_neg apart]
  split
  · exact find?_createDirectory_of_some found
  · exact found

theorem find?_create_of_ne {mode : UInt32} (apart : path.components ≠ other.components) :
    (memory.create other mode).2.tree.find? path = memory.tree.find? path := by
  unfold create
  split
  · rfl
  · simp only [Tree.find?_insert, if_neg apart]

theorem find?_write_of_ne {writer : Writer} {bytes : Bytes}
    (apart : path.components ≠ writer.path.components) :
    (memory.write writer bytes).2.tree.find? path = memory.tree.find? path := by
  unfold write
  split
  · rfl
  · split
    · simp only [Tree.find?_insert, if_neg apart]
    · rfl

theorem find?_rename_of_ne {host : Host} {source target : Path}
    (notSource : path.components ≠ source.components)
    (notTarget : path.components ≠ target.components) :
    (memory.rename host source target).2.tree.find? path = memory.tree.find? path := by
  unfold rename
  split
  · rfl
  · split
    · rfl
    · split
      · rfl
      · simp only [Tree.find?_insert, if_neg notTarget, Tree.find?_erase, if_neg notSource]

/-- A writer that is not refused appends to the file that is at its path. -/
theorem write_of_found {content bytes : Bytes} {mode : UInt32}
    (found : memory.tree.find? path = some (.file content mode)) :
    memory.write ⟨path, false⟩ bytes =
      (.ok bytes.length,
        { memory with tree := memory.tree.insert path (.file (content ++ bytes) mode) }) := by
  simp [write, found]

theorem opened_of_create {writer : Writer} {mode : UInt32}
    (made : (memory.create path mode).1 = .ok writer) :
    writer = ⟨path, memory.failingWrites.any path.liesIn⟩ ∧
      (memory.create path mode).2.tree.find? path = some (.file [] mode) := by
  unfold create at made ⊢
  cases fault : memory.parentFault path with
  | some failure => simp [fault] at made
  | none =>
      simp only [fault, Except.ok.injEq] at made
      exact ⟨made.symm, by simp [Tree.find?_insert]⟩

end Memory

end SelfUpdate
