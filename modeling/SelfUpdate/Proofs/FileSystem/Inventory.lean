import Mathlib.Logic.Function.Basic
import SelfUpdate.Proofs.FileSystem.Lookup
import SelfUpdate.Proofs.Path.Places

/-!
# What there is at each place

An inventory says what there is at each place, if anything.  It is that of a tree if
everything is in a directory.  A file system in memory has an inventory if it holds just what
the inventory says, at the paths that name its places.

Each operation in memory is described here as a change of the inventory, for plain paths and
where the operation can succeed.
-/

namespace SelfUpdate

/-- What there is at each place. -/
abbrev Inventory := Place → Option Node

namespace Inventory

/-- Everything is in a directory, and the modes of files are made of permissions only. -/
structure IsTree (inventory : Inventory) : Prop where
  root : inventory [] = some .directory
  parents : ∀ place name, inventory (place ++ [name]) ≠ none → inventory place = some .directory
  modes : ∀ place content mode, inventory place = some (.file content mode) → mode ≤ 0o777

/-- There is no file on the way to a place, or there. -/
def Clear (inventory : Inventory) (place : Place) : Prop :=
  ∀ above, above <+: place → ∀ content mode, inventory above ≠ some (.file content mode)

def put (inventory : Inventory) (place : Place) (node : Node) : Inventory :=
  fun other => if other = place then some node else inventory other

/-- Nothing is left at a place. -/
def drop (inventory : Inventory) (place : Place) : Inventory :=
  fun other => if other = place then none else inventory other

/-- Nothing is left at a place and below it. -/
def dropBelow (inventory : Inventory) (place : Place) : Inventory :=
  fun other => if place <+: other then none else inventory other

/-- Directories are made where nothing is on the way to a place, and there. -/
def make (inventory : Inventory) (place : Place) : Inventory :=
  fun other => if other <+: place ∧ inventory other = none then some .directory else inventory other

@[simp]
theorem put_self (inventory : Inventory) (place : Place) (node : Node) :
    inventory.put place node place = some node :=
  if_pos rfl

section Making

variable {inventory : Inventory} {place : Place} {name : List Char}

theorem Clear.concat (clear : inventory.Clear place)
    (missing : inventory (place ++ [name]) = none) :
    inventory.Clear (place ++ [name]) := by
  intro above before content mode
  rcases List.prefix_concat_iff.mp before with rfl | before
  · simp [missing]
  · exact clear above before content mode

theorem make_self (missing : inventory place = none) :
    inventory.make place place = some .directory := by
  rw [make, if_pos ⟨List.prefix_rfl, missing⟩]

/-- Nothing is made below a place. -/
theorem make_below (missing : inventory (place ++ [name]) = none) :
    inventory.make place (place ++ [name]) = none := by
  rw [make, if_neg fun made => absurd made.1.length_le (by simp), missing]

/-- Directories are made one after the other. -/
theorem make_concat (missing : inventory (place ++ [name]) = none) :
    (inventory.make place).put (place ++ [name]) .directory =
      inventory.make (place ++ [name]) := by
  funext other
  by_cases here : other = place ++ [name]
  · simp [put, make, here, missing]
  · simp [put, make, here, List.prefix_concat_iff]

/-- What there is stays when a new directory is made, and something in it. -/
theorem put_make_of_some {other : Place} {new node : Node}
    (missing : inventory (place ++ [name]) = none) (found : inventory other = some node) :
    (inventory.make place).put (place ++ [name]) new other = some node := by
  have notThere : other ≠ place ++ [name] := by
    rintro rfl
    simp [missing] at found
  rw [put, if_neg notThere, make, if_neg (by simp [found]), found]

end Making

namespace IsTree

variable {inventory : Inventory} {place : Place} (isTree : inventory.IsTree)

include isTree

/-- On the way to something there are directories. -/
theorem directory_of_prefix {below : Place} (further : below ≠ [])
    (found : inventory (place ++ below) ≠ none) : inventory place = some .directory := by
  induction below using List.reverseRecOn with
  | nil => exact absurd rfl further
  | append_singleton below name ih =>
      rw [← List.append_assoc] at found
      have inside := isTree.parents _ name found
      by_cases isLast : below = []
      · simpa [isLast] using inside
      · exact ih isLast (by simp [inside])

/-- Only in directories is there something. -/
theorem eq_none_of_prefix {other : Place} (before : place <+: other) (further : other ≠ place)
    (notDirectory : inventory place ≠ some .directory) : inventory other = none := by
  obtain ⟨below, rfl⟩ := before
  by_contra found
  exact notDirectory (isTree.directory_of_prefix (by simpa using further) found)

theorem directory_above {above : Place} (isDirectory : inventory place = some .directory)
    (before : above <+: place) : inventory above = some .directory := by
  by_contra notDirectory
  by_cases here : place = above
  · exact notDirectory (here ▸ isDirectory)
  · simp [isTree.eq_none_of_prefix before here notDirectory] at isDirectory

theorem clear_of_directory (isDirectory : inventory place = some .directory) :
    inventory.Clear place := by
  intro above before content mode
  simp [isTree.directory_above isDirectory before]

theorem dropBelow_of_missing (missing : inventory place = none) :
    inventory.dropBelow place = inventory := by
  funext other
  rw [Inventory.dropBelow]
  split
  · next below =>
      by_cases here : other = place
      · rw [here, missing]
      · rw [isTree.eq_none_of_prefix below here (by simp [missing])]
  · rfl

/-- On the way to a directory there is nothing left to make. -/
theorem make_of_directory (isDirectory : inventory place = some .directory) :
    inventory.make place = inventory := by
  funext other
  rw [Inventory.make, if_neg]
  rintro ⟨before, missing⟩
  simp [isTree.directory_above isDirectory before] at missing

theorem put {name : List Char} {content : Bytes} {mode : UInt32}
    (inside : inventory place = some .directory)
    (notDirectory : inventory (place ++ [name]) ≠ some .directory)
    (permissions : mode ≤ 0o777) :
    (inventory.put (place ++ [name]) (.file content mode)).IsTree where
  root := by simp [Inventory.put, isTree.root]
  parents other last found := by
    have inParent : inventory other = some .directory := by
      by_cases same : other ++ [last] = place ++ [name]
      · rw [(List.append_inj' same rfl).1, inside]
      · exact isTree.parents other last (by simpa [Inventory.put, same] using found)
    have notSame : other ≠ place ++ [name] := by
      rintro rfl
      exact notDirectory inParent
    rw [Inventory.put, if_neg notSame, inParent]
  modes other otherContent otherMode found := by
    rw [Inventory.put] at found
    split at found
    · obtain ⟨-, rfl⟩ : content = otherContent ∧ mode = otherMode := by simpa using found
      exact permissions
    · exact isTree.modes other otherContent otherMode found

theorem drop (notDirectory : inventory place ≠ some .directory) :
    (inventory.drop place).IsTree where
  root := by
    have notRoot : [] ≠ place := by
      rintro rfl
      exact notDirectory isTree.root
    rw [Inventory.drop, if_neg notRoot, isTree.root]
  parents other last found := by
    have inParent : inventory other = some .directory := by
      refine isTree.parents other last ?_
      rw [Inventory.drop] at found
      split at found
      · exact absurd rfl found
      · exact found
    have notSame : other ≠ place := by
      rintro rfl
      exact notDirectory inParent
    rw [Inventory.drop, if_neg notSame, inParent]
  modes other content mode found := by
    rw [Inventory.drop] at found
    split at found
    · simp at found
    · exact isTree.modes other content mode found

theorem dropBelow (notRoot : place ≠ []) : (inventory.dropBelow place).IsTree where
  root := by simp [Inventory.dropBelow, notRoot, isTree.root]
  parents other last found := by
    rw [Inventory.dropBelow] at found
    split at found
    · exact absurd rfl found
    · next outside =>
        have notBelow : ¬place <+: other := fun below =>
          outside (below.trans (List.prefix_append _ _))
        rw [Inventory.dropBelow, if_neg notBelow]
        exact isTree.parents other last found
  modes other content mode found := by
    rw [Inventory.dropBelow] at found
    split at found
    · simp at found
    · exact isTree.modes other content mode found

theorem make (clear : inventory.Clear place) : (inventory.make place).IsTree where
  root := by simp [Inventory.make, isTree.root]
  parents other last found := by
    rw [Inventory.make] at found ⊢
    split at found
    · next made =>
        have above : other <+: place := (List.prefix_append other [last]).trans made.1
        cases inParent : inventory other with
        | none => rw [if_pos ⟨above, rfl⟩]
        | some node =>
            cases node with
            | directory => simp
            | file content mode => exact absurd inParent (clear other above content mode)
    · simp [isTree.parents other last found]
  modes other content mode found := by
    rw [Inventory.make] at found
    split at found
    · simp at found
    · exact isTree.modes other content mode found

theorem put_directory (name : List Char) (inside : inventory place = some .directory)
    (missing : inventory (place ++ [name]) = none) :
    (inventory.put (place ++ [name]) .directory).IsTree := by
  have made := make_concat missing
  rw [isTree.make_of_directory inside] at made
  rw [made]
  exact isTree.make ((isTree.clear_of_directory inside).concat missing)

end IsTree

def rootOnly : Inventory :=
  fun place => if place = [] then some .directory else none

theorem isTree_rootOnly : rootOnly.IsTree where
  root := rfl
  parents place name found := by simp [rootOnly] at found
  modes place content mode found := by
    rw [rootOnly] at found
    split at found <;> simp at found

end Inventory

/-- A file system in memory holds what an inventory says, at the paths that name places, and
nothing else. -/
def Memory.Shows (memory : Memory) (inventory : Inventory) : Prop :=
  ∀ path, memory.tree.find? path = path.place?.bind inventory

theorem Memory.shows_empty : Memory.Shows ⟨.empty, 0, none, false⟩ fun _ => none := by
  intro path
  cases path.place? <;> rfl

namespace Path.Plain

variable {path other : Path} {place : Place} (plain : path.Plain place)

include plain

theorem same_iff : other.components = path.components ↔ other.place? = some place := by
  rw [place?_eq_some_iff, plain.components]

theorem isEmpty_of_mem_ancestors (member : other ∈ path.ancestors) : other.isEmpty = false := by
  obtain ⟨above, -, components⟩ := (plain.exists_ancestor_iff _).mp ⟨other, member, rfl⟩
  cases steps : other.steps with
  | nil => simp [Path.components, steps] at components
  | cons step rest => simp [Path.isEmpty, steps]

theorem liesIn_iff {below : Place} (named : other.place? = some below) :
    other.liesIn path = true ↔ place <+: below := by
  have injective : Function.Injective Component.name := fun _ _ same => Component.name.inj same
  rw [Path.liesIn_iff, plain.components, place?_eq_some_iff.mp named, List.cons_prefix_cons,
    List.prefix_map_iff_of_injective injective]
  simp

end Path.Plain

namespace Memory.Shows

variable {memory : Memory} {inventory : Inventory} {path : Path} {place : Place}
  (shows' : memory.Shows inventory) (plain : path.Plain place)

include shows' plain

theorem find? : memory.tree.find? path = inventory place := by
  rw [shows', plain.place?, Option.bind_some]

theorem insert (node : Node) (created : Nat) :
    Shows { memory with tree := memory.tree.insert path node, created := created }
      (inventory.put place node) := by
  intro other
  rw [Tree.find?_insert, shows' other]
  simp only [plain.same_iff]
  cases named : other.place? with
  | none => simp
  | some below => by_cases same : below = place <;> simp [Inventory.put, same]

theorem erase : Shows { memory with tree := memory.tree.erase path } (inventory.drop place) := by
  intro other
  rw [Tree.find?_erase, shows' other]
  simp only [plain.same_iff]
  cases named : other.place? with
  | none => simp
  | some below => by_cases same : below = place <;> simp [Inventory.drop, same]

theorem removeAll : (memory.removeAll path).Shows (inventory.dropBelow place) := by
  intro other
  rw [Memory.find?_removeAll, shows' other]
  cases named : other.place? with
  | none => simp
  | some below => simp [plain.liesIn_iff named, Inventory.dropBelow]

theorem createDirectory : (memory.createDirectory path).Shows (inventory.make place) := by
  classical
  intro other
  have made : MadeAlong path other ↔ ∃ above, above <+: place ∧ other.place? = some above := by
    simp only [Path.place?_eq_some_iff, ← plain.exists_ancestor_iff, MadeAlong]
    constructor
    · rintro ⟨ancestor, member, -, same⟩
      exact ⟨ancestor, member, same⟩
    · rintro ⟨ancestor, member, same⟩
      exact ⟨ancestor, member, plain.isEmpty_of_mem_ancestors member, same⟩
  rw [Memory.find?_createDirectory, shows' other]
  simp only [made]
  cases named : other.place? with
  | none => simp
  | some below => simp [Inventory.make]

end Memory.Shows

end SelfUpdate
