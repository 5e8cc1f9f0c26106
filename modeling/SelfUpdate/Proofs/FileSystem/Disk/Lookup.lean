import SelfUpdate.FileSystem.Disk.Operations
import SelfUpdate.Proofs.FileSystem.Inventory

/-!
# Looking up nodes on a disk

A disk shows an inventory if it holds just what that says, and no symbolic link.  What is
found on a disk after nodes were put, erased or moved is told here, and so which inventory
the disk then shows.
-/

namespace SelfUpdate

/-- What an inventory says of a node: nothing of links, and nothing more of a directory than
that it is one. -/
def Inode.node? : Inode → Option Node
  | .file content mode => some (.file content mode)
  | .directory _ => some .directory
  | .link _ => none

/-- A disk holds what an inventory says, and no symbolic link. -/
def Disk.Shows (disk : Disk) (inventory : Inventory) : Prop :=
  ∀ place, (disk.find? place).map Inode.node? = (inventory place).map some

namespace Disk

variable {disk : Disk} {inventory : Inventory}

namespace Shows

variable {place : Place} (shows' : disk.Shows inventory)

include shows'

theorem missing (missing : inventory place = none) : disk.find? place = none := by
  simpa [missing] using shows' place

theorem directory (isDirectory : inventory place = some .directory) :
    ∃ mode, disk.find? place = some (.directory mode) := by
  obtain ⟨inode, found, same⟩ : ∃ inode, disk.find? place = some inode ∧
      inode.node? = some .directory := by simpa [isDirectory] using shows' place
  cases inode <;> simp_all [Inode.node?]

theorem file {content : Bytes} {mode : UInt32}
    (isFile : inventory place = some (.file content mode)) :
    disk.find? place = some (.file content mode) := by
  obtain ⟨inode, found, same⟩ : ∃ inode, disk.find? place = some inode ∧
      inode.node? = some (.file content mode) := by simpa [isFile] using shows' place
  cases inode <;> simp_all [Inode.node?]

theorem noLink (place : Place) (target : List Char) : disk.find? place ≠ some (.link target) := by
  intro found
  have shown := shows' place
  rw [found] at shown
  generalize inventory place = node at shown
  cases node <;> simp [Inode.node?] at shown

end Shows

theorem lookup_filter {α β : Type} [BEq α] [LawfulBEq α] (test : α → Bool)
    (nodes : List (α × β)) (key : α) :
    (nodes.filter fun node => test node.1).lookup key =
      if test key then nodes.lookup key else none := by
  induction nodes with
  | nil => simp
  | cons node nodes ih =>
      obtain ⟨name, value⟩ := node
      by_cases same : key = name
      · subst same
        by_cases kept : test key = true <;> simp [kept, ih]
      · have other : (key == name) = false := by simpa using same
        by_cases kept : test name = true <;>
          simp [kept, List.lookup_cons, other, ih]

theorem find?_of_ne_root {place : Place} (notRoot : place ≠ []) :
    disk.find? place = disk.nodes.lookup place := by
  rw [find?, if_neg (by simpa using notRoot)]

theorem find?_root : disk.find? [] = some (.directory 0o755) :=
  rfl

theorem find?_insert {place : Place} (notRoot : place ≠ []) (inode : Inode) (other : Place) :
    (disk.insert place inode).find? other =
      if other = place then some inode else disk.find? other := by
  by_cases root : other = []
  · rw [root, find?_root, find?_root, if_neg (Ne.symm notRoot)]
  rw [find?_of_ne_root root, find?_of_ne_root root, insert, List.lookup_cons,
    lookup_filter (· != place)]
  by_cases same : other = place
  · simp [same]
  · have differs : (other == place) = false := by simpa using same
    simp [same, differs]

theorem find?_erase {place : Place} (notRoot : place ≠ []) (other : Place) :
    (disk.erase place).find? other =
      if place <+: other then none else disk.find? other := by
  by_cases root : other = []
  · rw [root, find?_root, find?_root, if_neg (by simpa using notRoot)]
  rw [find?_of_ne_root root, find?_of_ne_root root, erase,
    lookup_filter fun name => !place.isPrefixOf name]
  by_cases below : place <+: other
  · rw [List.isPrefixOf_iff_prefix.mpr below, if_pos below]
    rfl
  · rw [Bool.eq_false_iff.mpr fun isPrefix => below (List.isPrefixOf_iff_prefix.mp isPrefix),
      if_neg below]
    rfl

theorem Shows.insert (shows' : disk.Shows inventory) {place : Place} (notRoot : place ≠ [])
    {inode : Inode} {node : Node} (stands : inode.node? = some node) :
    (disk.insert place inode).Shows (inventory.put place node) := by
  intro other
  rw [find?_insert notRoot, Inventory.put]
  split
  · simp [stands]
  · exact shows' other

theorem Shows.erase (shows' : disk.Shows inventory) {place : Place} (notRoot : place ≠ []) :
    (disk.erase place).Shows (inventory.dropBelow place) := by
  intro other
  rw [find?_erase notRoot, Inventory.dropBelow]
  split
  · rfl
  · exact shows' other

theorem shows_rootOnly (directory : Place) (umask : UInt32) :
    Disk.Shows ⟨[], directory, umask⟩ .rootOnly := by
  intro place
  by_cases root : place = [] <;> simp [find?, Inventory.rootOnly, root, Inode.node?]

/-- Where nothing lies below a place, its node is moved alone. -/
theorem lookup_moved {source : Place} (target : Place) (nodes : List (Place × Inode))
    (alone : ∀ node ∈ nodes, source <+: node.1 → node.1 = source) (other : Place) :
    (nodes.filterMap fun node =>
        if source.isPrefixOf node.1 then some (target ++ node.1.drop source.length, node.2)
        else none).lookup other =
      if other = target then nodes.lookup source else none := by
  induction nodes with
  | nil => simp
  | cons node nodes ih =>
      have later := ih fun next member => alone next (List.mem_cons_of_mem _ member)
      by_cases below : source <+: node.1
      · have same := alone node List.mem_cons_self below
        have moves : source.isPrefixOf node.1 = true := List.isPrefixOf_iff_prefix.mpr below
        rw [List.filterMap_cons, if_pos moves, same, List.drop_length, List.append_nil]
        dsimp only
        rw [List.lookup_cons, List.lookup_cons, same, later]
        by_cases here : other = target
        · simp [here]
        · have differs : (other == target) = false := by simpa using here
          simp [here, differs]
      · have stays : source.isPrefixOf node.1 = false :=
          Bool.eq_false_iff.mpr fun moves => below (List.isPrefixOf_iff_prefix.mp moves)
        have differs : (source == node.1) = false := by
          rw [beq_eq_false_iff_ne]
          rintro rfl
          exact below List.prefix_rfl
        rw [List.filterMap_cons, stays, if_neg (by decide)]
        dsimp only
        rw [later, List.lookup_cons, differs]

theorem find?_relocate {source target : Place} (sourceNotRoot : source ≠ [])
    (targetNotRoot : target ≠ [])
    (alone : ∀ node ∈ disk.nodes, source <+: node.1 → node.1 = source) {inode : Inode}
    (found : disk.find? source = some inode) (other : Place) :
    (disk.relocate source target).find? other =
      if other = target then some inode
      else if source <+: other ∨ target <+: other then none else disk.find? other := by
  by_cases root : other = []
  · rw [root, find?_root, find?_root, if_neg (Ne.symm targetNotRoot),
      if_neg (by simpa using ⟨sourceNotRoot, targetNotRoot⟩)]
  rw [find?_of_ne_root sourceNotRoot] at found
  have rest : ((disk.erase source).erase target).nodes.lookup other =
      if source <+: other ∨ target <+: other then none else disk.find? other := by
    rw [← find?_of_ne_root root, find?_erase targetNotRoot, find?_erase sourceNotRoot]
    by_cases atSource : source <+: other <;> by_cases atTarget : target <+: other <;>
      simp [atSource, atTarget]
  rw [find?_of_ne_root root, relocate, List.lookup_append, lookup_moved target _ alone, rest,
    found]
  by_cases here : other = target <;> simp [here]

/-- A file is moved to a place where no directory is. -/
theorem Shows.relocate (shows' : disk.Shows inventory) (isTree : inventory.IsTree)
    {source target : Place} {content : Bytes} {mode : UInt32}
    (isFile : inventory source = some (.file content mode))
    (notDirectory : inventory target ≠ some .directory) (apart : source ≠ target) :
    (disk.relocate source target).Shows
      ((inventory.drop source).put target (.file content mode)) := by
  have sourceNotRoot : source ≠ [] := by
    rintro rfl
    simp [isTree.root] at isFile
  have targetNotRoot : target ≠ [] := by
    rintro rfl
    exact notDirectory isTree.root
  -- Nothing lies below a file, so nothing else is moved with it.
  have alone : ∀ node ∈ disk.nodes, source <+: node.1 → node.1 = source := by
    intro node member below
    by_contra further
    have absent := shows'.missing (isTree.eq_none_of_prefix below further (by simp [isFile]))
    have notRoot : node.1 ≠ [] := by
      intro root
      exact sourceNotRoot (List.prefix_nil.mp (root ▸ below))
    rw [find?_of_ne_root notRoot, List.lookup_eq_none_iff] at absent
    simpa using absent node member
  intro other
  rw [find?_relocate sourceNotRoot targetNotRoot alone (shows'.file isFile)]
  by_cases atTarget : other = target
  · simp [atTarget, Inventory.put, Inode.node?]
  by_cases atSource : other = source
  · simp [atSource, apart, Inventory.put, Inventory.drop]
  rw [if_neg atTarget, Inventory.put, if_neg atTarget, Inventory.drop, if_neg atSource]
  split
  · next below =>
      rcases below with below | below
      · rw [isTree.eq_none_of_prefix below atSource (by simp [isFile])]
        rfl
      · rw [isTree.eq_none_of_prefix below atTarget notDirectory]
        rfl
  · exact shows' other

end Disk

end SelfUpdate
