import Mathlib.Algebra.Order.Ring.Nat
import SelfUpdate.Proofs.FileSystem.Disk.Resolution

/-!
# Operations on a disk without links

Each operation on a disk is described as a change of the inventory that the disk shows, for
plain paths and where the operation can succeed.  These are the changes that the operations
in memory make, too.
-/

namespace SelfUpdate.Disk

variable {disk : Disk} {inventory : Inventory}

section Reading

variable (shows' : disk.Shows inventory) (isTree : inventory.IsTree) {path : Path}
  {place : Place} (plain : path.Plain place)

include shows' isTree plain

omit isTree in
theorem resolve_parts (followLast : Bool) :
    disk.resolve followLast path (parts path.letters) =
      (disk.follow false [] place).mapError .system := by
  simpa using resolve_eq_follow shows' plain followLast false

omit isTree in
theorem resolve_strictParts (followLast : Bool) :
    disk.resolve followLast path (strictParts path.letters) =
      (disk.follow (meansDirectory path.letters) [] place).mapError .system :=
  resolve_eq_follow shows' plain followLast _

omit shows' isTree plain in
theorem nodeAt_of_find? {destination : Destination} {inode : Inode}
    (leads : disk.resolve true path (strictParts path.letters) = .ok destination)
    (found : disk.find? destination.place = some inode) :
    disk.nodeAt path = .ok (destination.place, inode) := by
  simp [nodeAt, leads, found, bind, Except.bind, pure, Except.pure]

theorem nodeAt_file {content : Bytes} {mode : UInt32}
    (isFile : inventory place = some (.file content mode)) (noTail : path.tail = []) :
    disk.nodeAt path = .ok (place, .file content mode) := by
  rcases List.eq_nil_or_concat' place with rfl | ⟨above, name, rfl⟩
  · simp [isTree.root] at isFile
  have inside := isTree.parents above name (by simp [isFile])
  have open' : meansDirectory path.letters = false := by
    rw [Bool.eq_false_iff, ne_eq, plain.meansDirectory_iff]
    simp [noTail]
  have found : disk.find? (Destination.entry above name).place = some (.file content mode) :=
    shows'.file isFile
  refine nodeAt_of_find? ?_ found
  rw [resolve_strictParts shows' plain, open', follow_entry shows' isTree inside]
  rfl

theorem nodeAt_missing (clear : inventory.Clear place) (missing : inventory place = none) :
    disk.nodeAt path = .error (.system .notFound) := by
  rw [nodeAt, resolve_strictParts shows' plain]
  rcases follow_missing shows' isTree (meansDirectory path.letters) clear missing with
    ⟨-, above, name, rfl, -, leads⟩ | fails
  · have nothing : disk.find? (Destination.entry above name).place = none :=
      shows'.missing missing
    simp [leads, nothing, Except.mapError, bind, Except.bind]
  · rw [fails]
    rfl

theorem nodeAt_directory (isDirectory : inventory place = some .directory) :
    ∃ mode, disk.nodeAt path = .ok (place, .directory mode) := by
  obtain ⟨mode, found⟩ := shows'.directory isDirectory
  have leads : ∃ destination, disk.follow (meansDirectory path.letters) [] place =
      .ok destination ∧ destination.place = place := by
    cases slash : meansDirectory path.letters with
    | true => exact ⟨.directory place, follow_directory shows' isTree isDirectory, rfl⟩
    | false =>
        rcases List.eq_nil_or_concat' place with rfl | ⟨above, name, rfl⟩
        · rw [plain.meansDirectory_iff.mpr (Or.inl rfl)] at slash
          simp at slash
        · have inside := isTree.parents above name (by simp [isDirectory])
          exact ⟨.entry above name, follow_entry shows' isTree inside, rfl⟩
  obtain ⟨destination, follows, same⟩ := leads
  subst same
  refine ⟨mode, nodeAt_of_find? ?_ found⟩
  rw [resolve_strictParts shows' plain, follows]
  rfl

theorem isDirectory_of_directory (isDirectory : inventory place = some .directory) :
    disk.isDirectory path = true := by
  obtain ⟨mode, leads⟩ := nodeAt_directory shows' isTree plain isDirectory
  rw [Disk.isDirectory, leads]

theorem stat_missing (clear : inventory.Clear place) (missing : inventory place = none) :
    disk.stat path = .error (.system .notFound) := by
  rw [stat, nodeAt_missing shows' isTree plain clear missing]
  rfl

end Reading

section Permissions

variable {mode : UInt32} (permissions : mode ≤ 0o777)

include permissions

/-- A mask of enough bits leaves permissions as they are. -/
theorem and_of_permissions {mask : UInt32} (bits : Nat) (isMask : mask.toNat = 2 ^ bits - 1)
    (enough : 9 ≤ bits) : mode &&& mask = mode := by
  have small : mode.toNat < 2 ^ bits := by
    have most : mode.toNat < 2 ^ 9 := Nat.lt_succ_of_le (UInt32.le_iff_toNat_le.mp permissions)
    exact Nat.lt_of_lt_of_le most (Nat.pow_le_pow_right (by decide) enough)
  rw [← UInt32.toNat_inj, UInt32.toNat_and, isMask, Nat.and_two_pow_sub_one_eq_mod,
    Nat.mod_eq_of_lt small]

/-- What is written to a file does not change its permissions. -/
theorem modeAfterWrite_of_permissions : modeAfterWrite mode = mode := by
  have noneLent : ¬mode &&& 0o2010 = 0o2010 := by
    intro lent
    have least : (0o2010 : Nat) ≤ mode.toNat := by
      have whole : (mode &&& 0o2010).toNat = 0o2010 := by rw [lent]; rfl
      rw [← whole, UInt32.toNat_and]
      exact Nat.and_le_left
    have most : mode.toNat ≤ 0o777 := UInt32.le_iff_toNat_le.mp permissions
    omega
  rw [modeAfterWrite, and_of_permissions permissions 11 rfl (by decide)]
  simp only [noneLent, if_false]

end Permissions

section Changing

variable (shows' : disk.Shows inventory) (isTree : inventory.IsTree) {path : Path}
  {place : Place}

include shows' isTree

theorem stat_file (plain : path.Plain place) {content : Bytes} {mode : UInt32}
    (isFile : inventory place = some (.file content mode)) (noTail : path.tail = []) :
    disk.stat path = .ok ⟨mode⟩ := by
  rw [stat, nodeAt_file shows' isTree plain isFile noTail]
  change Except.ok (FileStat.mk (mode &&& 0o7777)) = _
  rw [and_of_permissions (isTree.modes place content mode isFile) 12 rfl (by decide)]

theorem Shows.create {name : List Char} {mode : UInt32} (plain : path.Plain (place ++ [name]))
    (noTail : path.tail = []) (inside : inventory place = some .directory)
    (notDirectory : inventory (place ++ [name]) ≠ some .directory)
    (permissions : mode ≤ 0o777) :
    ∃ after : Disk, disk.create path mode = (.ok ⟨place ++ [name]⟩, after) ∧
      after.Shows (inventory.put (place ++ [name]) (.file [] mode)) := by
  have open' : meansDirectory path.letters = false := by
    rw [Bool.eq_false_iff, ne_eq, plain.meansDirectory_iff]
    simp [noTail]
  refine ⟨disk.insert (place ++ [name]) (.file [] mode), ?_,
    shows'.insert (by simp) rfl⟩
  rw [Disk.create, resolve_parts shows' plain, follow_entry shows' isTree inside]
  dsimp only [Except.mapError]
  rw [open', if_neg (by decide), and_of_permissions permissions 12 rfl (by decide)]
  cases node : inventory (place ++ [name]) with
  | none => rw [shows'.missing node]
  | some node' =>
      cases node' with
      | file content mode => rw [shows'.file node]
      | directory => exact absurd node notDirectory

theorem Shows.write {content : Bytes} {mode : UInt32} (bytes : Bytes)
    (isFile : inventory place = some (.file content mode)) :
    ∃ after : Disk, disk.write ⟨place⟩ bytes = (.ok bytes.length, after) ∧
      after.Shows (inventory.put place (.file (content ++ bytes) mode)) := by
  have notRoot : place ≠ [] := by
    rintro rfl
    simp [isTree.root] at isFile
  rw [Disk.write, shows'.file isFile]
  dsimp only
  by_cases nothing : bytes = []
  · refine ⟨disk, by simp [nothing], ?_⟩
    have same : inventory.put place (.file (content ++ bytes) mode) = inventory := by
      funext other
      rw [Inventory.put]
      split
      · next here => rw [here, isFile, nothing, List.append_nil]
      · rfl
    rw [same]
    exact shows'
  · rw [if_neg (by simpa using nothing),
      modeAfterWrite_of_permissions (isTree.modes place content mode isFile)]
    exact ⟨_, rfl, shows'.insert notRoot rfl⟩

/-- A file may be renamed to any place in a directory where no directory is. -/
theorem renameFault_file {source : Place} {name : List Char} {content : Bytes} {mode : UInt32}
    (isFile : inventory source = some (.file content mode))
    (inside : inventory place = some .directory)
    (notDirectory : inventory (place ++ [name]) ≠ some .directory) :
    disk.renameFault source (place ++ [name]) (.file content mode) false = none := by
  have notBelow : (source.isPrefixOf (place ++ [name]) && source != place ++ [name]) = false := by
    rw [Bool.eq_false_iff, ne_eq, Bool.and_eq_true, List.isPrefixOf_iff_prefix, bne_iff_ne]
    rintro ⟨before, apart⟩
    rcases List.prefix_concat_iff.mp before with same | above
    · exact apart same
    have notPlace : place ≠ source := by
      rintro rfl
      simp [inside] at isFile
    rw [isTree.eq_none_of_prefix above notPlace (by simp [isFile])] at inside
    simp at inside
  have notAbove : ((place ++ [name]).isPrefixOf source && source != place ++ [name]) = false := by
    rw [Bool.eq_false_iff, ne_eq, Bool.and_eq_true, List.isPrefixOf_iff_prefix, bne_iff_ne]
    rintro ⟨before, apart⟩
    rw [isTree.eq_none_of_prefix before apart notDirectory] at isFile
    simp at isFile
  simp only [renameFault, Bool.false_and, notBelow, notAbove, Bool.false_eq_true, if_false]
  cases node : inventory (place ++ [name]) with
  | none => rw [shows'.missing node]
  | some node' =>
      cases node' with
      | file other otherMode => rw [shows'.file node]
      | directory => exact absurd node notDirectory

theorem Shows.rename {source target : Path} {from' : Place} {name : List Char}
    {content : Bytes} {mode : UInt32} (sourcePlain : source.Plain from')
    (targetPlain : target.Plain (place ++ [name])) (sourceTail : source.tail = [])
    (targetTail : target.tail = []) (isFile : inventory from' = some (.file content mode))
    (inside : inventory place = some .directory)
    (notDirectory : inventory (place ++ [name]) ≠ some .directory) :
    ∃ after : Disk, disk.rename source target = (.ok (), after) ∧
      after.Shows ((inventory.drop from').put (place ++ [name]) (.file content mode)) := by
  have sourceOpen : meansDirectory source.letters = false := by
    rw [Bool.eq_false_iff, ne_eq, sourcePlain.meansDirectory_iff]
    rintro (rfl | tail)
    · simp [isTree.root] at isFile
    · exact tail sourceTail
  have targetOpen : meansDirectory target.letters = false := by
    rw [Bool.eq_false_iff, ne_eq, targetPlain.meansDirectory_iff]
    simp [targetTail]
  rcases List.eq_nil_or_concat' from' with rfl | ⟨above, last, rfl⟩
  · simp [isTree.root] at isFile
  have around := isTree.parents above last (by simp [isFile])
  rw [Disk.rename, resolve_parts shows' sourcePlain, resolve_parts shows' targetPlain,
    follow_entry shows' isTree around, follow_entry shows' isTree inside]
  dsimp only [Except.mapError]
  rw [shows'.file isFile, sourceOpen, targetOpen, Bool.or_false]
  dsimp only
  rw [renameFault_file shows' isTree isFile inside notDirectory]
  dsimp only
  by_cases same : above ++ [last] = place ++ [name]
  · refine ⟨disk, by rw [if_pos same], ?_⟩
    have unchanged : (inventory.drop (above ++ [last])).put (place ++ [name])
        (.file content mode) = inventory := by
      funext other
      by_cases here : other = place ++ [name]
      · rw [Inventory.put, if_pos here, here, ← same, isFile]
      · rw [Inventory.put, if_neg here, Inventory.drop, if_neg (same ▸ here)]
    rw [unchanged]
    exact shows'
  · exact ⟨_, by rw [if_neg same], shows'.relocate isTree isFile notDirectory same⟩

theorem Shows.makeDirectory {name : List Char} (plain : path.Plain (place ++ [name]))
    (inside : inventory place = some .directory) (missing : inventory (place ++ [name]) = none) :
    ∃ after : Disk, disk.makeDirectory path = (.ok (), after) ∧
      after.Shows (inventory.put (place ++ [name]) .directory) := by
  rw [Disk.makeDirectory, resolve_parts shows' plain, follow_entry shows' isTree inside]
  dsimp only [Except.mapError]
  rw [shows'.missing missing]
  exact ⟨_, rfl, shows'.insert (by simp) rfl⟩

theorem makeDirectory_of_directory (plain : path.Plain place)
    (isDirectory : inventory place = some .directory) :
    disk.makeDirectory path = (.error (.system .exists), disk) := by
  rw [makeDirectory, resolve_parts shows' plain]
  rcases List.eq_nil_or_concat' place with rfl | ⟨above, name, rfl⟩
  · rfl
  · rw [follow_entry shows' isTree (isTree.parents above name (by simp [isDirectory]))]
    dsimp only [Except.mapError]
    obtain ⟨mode, found⟩ := shows'.directory isDirectory
    rw [found]

theorem makeDirectory_below_missing {name : List Char} (plain : path.Plain (place ++ [name]))
    (clear : inventory.Clear place) (missing : inventory place = none) :
    disk.makeDirectory path = (.error (.system .notFound), disk) := by
  rw [Disk.makeDirectory, resolve_parts shows' plain,
    follow_below_missing shows' isTree false clear missing]
  rfl

/-- From a directory that is there, it is gone on with the longer paths. -/
theorem createFirst_of_directory (plain : path.Plain place)
    (isDirectory : inventory place = some .directory) (longer shorter : List Path) :
    disk.createFirst longer (path :: shorter) = disk.makeDirectories longer := by
  have refused := makeDirectory_of_directory shows' isTree plain isDirectory
  have there := isDirectory_of_directory shows' isTree plain isDirectory
  simp [createFirst, plain.isEmpty, refused, there, Failure.kind, SystemFault.kind]

/-- What makes the missing directories on the way to a place, and the one there, goes on with
the longer paths that it was given. -/
theorem Shows.createFirst (plain : path.Plain place) (clear : inventory.Clear place) :
    ∃ after : Disk, after.Shows (inventory.make place) ∧
      ∀ longer, disk.createFirst longer path.ancestors = after.makeDirectories longer := by
  induction place using List.reverseRecOn generalizing path with
  | nil =>
      rw [plain.root.2, isTree.make_of_directory isTree.root]
      exact ⟨disk, shows', fun longer =>
        createFirst_of_directory shows' isTree plain isTree.root longer []⟩
  | append_singleton place name ih =>
      obtain ⟨parent, -, parentPlain, ancestors, -⟩ := plain.above
      have clearAbove : inventory.Clear place := fun above before =>
        clear above (before.trans (List.prefix_append _ _))
      rw [ancestors]
      cases found : inventory (place ++ [name]) with
      | some node =>
          cases node with
          | file content mode => exact absurd found (clear _ List.prefix_rfl content mode)
          | directory =>
              rw [isTree.make_of_directory found]
              exact ⟨disk, shows', fun longer =>
                createFirst_of_directory shows' isTree plain found longer _⟩
      | none =>
          rw [← Inventory.make_concat found]
          cases inside : inventory place with
          | some node =>
              cases node with
              | file content mode =>
                  exact absurd inside (clearAbove _ List.prefix_rfl content mode)
              | directory =>
                  obtain ⟨after, makes, shown⟩ :=
                    Shows.makeDirectory shows' isTree plain inside found
                  rw [isTree.make_of_directory inside]
                  refine ⟨after, shown, fun longer => ?_⟩
                  simp [Disk.createFirst, plain.isEmpty, makes]
          | none =>
              -- The directory above is made first, and then this one inside of it.
              have refused := makeDirectory_below_missing shows' isTree plain clearAbove inside
              obtain ⟨middle, shown, goesOn⟩ := ih parentPlain clearAbove
              obtain ⟨after, makes, shownAfter⟩ := Shows.makeDirectory shown
                (isTree.make clearAbove) plain (Inventory.make_self inside)
                (Inventory.make_below found)
              refine ⟨after, shownAfter, fun longer => ?_⟩
              simp [Disk.createFirst, plain.isEmpty, refused, Failure.kind, SystemFault.kind,
                goesOn, makeDirectories, makes]

theorem Shows.createDirectory (plain : path.Plain place) (clear : inventory.Clear place) :
    ∃ after : Disk, disk.createDirectory path = (.ok (), after) ∧
      after.Shows (inventory.make place) := by
  obtain ⟨after, shown, goesOn⟩ := Shows.createFirst shows' isTree plain clear
  exact ⟨after, by rw [Disk.createDirectory, goesOn, makeDirectories], shown⟩

theorem Shows.removeAll {name : List Char} (plain : path.Plain (place ++ [name]))
    (clear : inventory.Clear place)
    (noSlash : path.tail = [] ∨ ∀ content mode,
      inventory (place ++ [name]) ≠ some (.file content mode)) :
    ∃ after : Disk, disk.removeAll path = (.ok (), after) ∧
      after.Shows (inventory.dropBelow (place ++ [name])) := by
  have erased : (disk.erase (place ++ [name])).Shows (inventory.dropBelow (place ++ [name])) :=
    shows'.erase (by simp)
  rw [Disk.removeAll, resolve_parts shows' plain]
  cases inside : inventory place with
  | none =>
      have missing : inventory (place ++ [name]) = none :=
        isTree.eq_none_of_prefix (List.prefix_append _ _) (by simp) (by simp [inside])
      rw [isTree.dropBelow_of_missing missing,
        follow_below_missing shows' isTree false clear inside]
      exact ⟨disk, rfl, shows'⟩
  | some node =>
      cases node with
      | file content mode => exact absurd inside (clear place List.prefix_rfl content mode)
      | directory =>
          rw [follow_entry shows' isTree inside]
          dsimp only [Except.mapError]
          cases found : inventory (place ++ [name]) with
          | none =>
              rw [shows'.missing found, isTree.dropBelow_of_missing found]
              exact ⟨disk, rfl, shows'⟩
          | some node =>
              cases node with
              | directory =>
                  obtain ⟨mode, found⟩ := shows'.directory found
                  rw [found]
                  exact ⟨_, rfl, erased⟩
              | file content mode =>
                  have open' : meansDirectory path.letters = false := by
                    rw [Bool.eq_false_iff, ne_eq, plain.meansDirectory_iff]
                    rcases noSlash with noTail | notFile
                    · simp [noTail]
                    · exact absurd found (notFile content mode)
                  rw [shows'.file found, open']
                  exact ⟨_, rfl, erased⟩

end Changing

end SelfUpdate.Disk
