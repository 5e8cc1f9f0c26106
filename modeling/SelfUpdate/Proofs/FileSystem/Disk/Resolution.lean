import SelfUpdate.Proofs.FileSystem.Disk.Lookup

/-!
# Where plain paths lead on a disk

On a disk without symbolic links a plain path is followed name by name, through directories,
to the place that it names.  So where it leads depends only on what there is at the places
on the way.
-/

namespace SelfUpdate.Disk

/-- Go along names from a directory.  If the last one must be a directory, it is entered. -/
def follow (disk : Disk) (enters : Bool) (here : Place) :
    List (List Char) → Except SystemFault Destination
  | [] => .ok (.directory here)
  | name :: rest =>
      match disk.find? (here ++ [name]) with
      | some (.directory _) =>
          if rest.isEmpty && !enters then .ok (.entry here name)
          else disk.follow enters (here ++ [name]) rest
      | none => if rest.isEmpty && !enters then .ok (.entry here name) else .error .notFound
      | some _ =>
          if rest.isEmpty && !enters then .ok (.entry here name) else .error .notADirectory

/-- A path from the root is walked along from there, if the system accepts it. -/
theorem resolve_of_fromRoot {disk : Disk} {followLast : Bool} {path : Path}
    {parts : List (List Char)} (accepted : pathFault path = none)
    (rooted : fromRoot path.letters = true) :
    disk.resolve followLast path parts =
      (disk.walk followLast maxLinks [] parts).mapError .system := by
  rw [resolve, accepted, rooted]
  rfl

section Walk

variable {disk : Disk} {inventory : Inventory} (shows' : disk.Shows inventory)

include shows'

/-- Dots on the way are passed over. -/
theorem walk_eq_follow (followLast enters : Bool) (links : Nat) (here : Place)
    (parts : List (List Char))
    (names : ∀ part ∈ parts, part ≠ ['.', '.'] ∧ byteCount part ≤ maxName)
    (notLast : parts.getLast? ≠ some ['.']) :
    disk.walk followLast links here (parts ++ if enters then [['.']] else []) =
      disk.follow enters here (parts.filter (· ≠ ['.'])) := by
  -- Links are never counted, because no part leads to one.
  induction parts generalizing here with
  | nil => cases enters <;> simp [walk, follow]
  | cons part parts ih =>
      obtain ⟨notParent, short⟩ := names part List.mem_cons_self
      have later := fun other member => names other (List.mem_cons_of_mem part member)
      by_cases dot : part = ['.']
      · have notLast' : parts.getLast? ≠ some ['.'] := by
          cases parts with
          | nil => simp [dot] at notLast
          | cons next parts => simpa using notLast
        rw [List.cons_append, walk, if_pos dot, ih here later notLast']
        simp [dot]
      · have notLast' : parts.getLast? ≠ some ['.'] := by
          cases parts with
          | nil => simp
          | cons next parts => simpa using notLast
        -- The last of the parts is the last of the names, since it is not a dot.
        have isEmpty : (parts ++ if enters then [['.']] else []).isEmpty =
            ((parts.filter (· ≠ ['.'])).isEmpty && !enters) := by
          have filtered : (parts.filter (· ≠ ['.'])).isEmpty = parts.isEmpty := by
            rcases List.eq_nil_or_concat' parts with rfl | ⟨front, last, rfl⟩
            · rfl
            · have isName : last ≠ ['.'] := by simpa using notLast'
              have filled (before : List (List Char)) : (before ++ [last]).isEmpty = false := by
                cases before <;> rfl
              simp [isName, filled]
          rw [filtered]
          cases enters <;> cases parts <;> rfl
        have kept : (part :: parts).filter (· ≠ ['.']) = part :: parts.filter (· ≠ ['.']) := by
          simp [dot]
        rw [List.cons_append, walk, if_neg dot, if_neg notParent, if_neg (Nat.not_lt.mpr short),
          kept, follow]
        dsimp only
        rw [isEmpty]
        cases found : disk.find? (here ++ [part]) with
        | none => rfl
        | some inode =>
            cases inode with
            | file content mode => rfl
            | directory mode => rw [ih _ later notLast']
            | link target => exact absurd found (shows'.noLink _ target)

variable {path : Path} {place : Place} (plain : path.Plain place)

include plain

theorem resolve_eq_follow (followLast enters : Bool) :
    disk.resolve followLast path
        (parts path.letters ++ if enters then [['.']] else []) =
      (disk.follow enters [] place).mapError .system := by
  have accepted : pathFault path = none := by
    have notEmpty : path.letters.isEmpty = false := by
      have fromRoot := plain.fromRoot
      cases letters : path.letters with
      | nil => simp [letters, Disk.fromRoot] at fromRoot
      | cons letter letters => rfl
    have noNul : path.letters.contains '\x00' = false := by simpa using plain.noNul
    simp only [pathFault, noNul, notEmpty, if_neg (Nat.not_lt.mpr plain.short),
      Bool.false_eq_true, if_false]
  obtain ⟨names, notLast⟩ := plain.parts
  have allowed : ∀ part ∈ parts path.letters, part ≠ ['.', '.'] ∧ byteCount part ≤ maxName := by
    intro part member
    by_cases dot : part = ['.']
    · subst dot
      decide
    · have isName : part ∈ place := by
        rw [← names]
        exact List.mem_filter.mpr ⟨member, by simpa using dot⟩
      exact ⟨(plain.isName part isName).notParent, (plain.isName part isName).short⟩
  rw [resolve_of_fromRoot accepted plain.fromRoot,
    walk_eq_follow shows' followLast enters maxLinks [] _ allowed notLast, names]

end Walk

section Follow

variable {disk : Disk} {inventory : Inventory} (shows' : disk.Shows inventory)
  (isTree : inventory.IsTree) {place : Place}

include shows' isTree

/-- Directories are gone through. -/
theorem follow_append (here : Place) {front back : Place} (enters : Bool)
    (isDirectory : inventory (here ++ front) = some .directory) (further : back ≠ []) :
    disk.follow enters here (front ++ back) = disk.follow enters (here ++ front) back := by
  induction front generalizing here with
  | nil => rw [List.nil_append, List.append_nil]
  | cons name front ih =>
      have whole : here ++ name :: front = here ++ [name] ++ front := by simp
      rw [whole] at isDirectory ⊢
      have first : inventory (here ++ [name]) = some .directory := by
        by_cases isLast : front = []
        · simpa [isLast] using isDirectory
        · exact isTree.directory_of_prefix isLast (by rw [isDirectory]; simp)
      obtain ⟨mode, found⟩ := shows'.directory first
      have more : (front ++ back).isEmpty = false := by simp [further]
      rw [List.cons_append, follow, found]
      dsimp only
      rw [more, Bool.false_and, if_neg (by decide), ih _ isDirectory]

/-- In a directory every name is an entry. -/
theorem follow_entry {name : List Char} (inside : inventory place = some .directory) :
    disk.follow false [] (place ++ [name]) = .ok (.entry place name) := by
  rw [follow_append shows' isTree [] false inside (by simp), List.nil_append, follow]
  split <;> rfl

/-- A directory is entered. -/
theorem follow_directory (isDirectory : inventory place = some .directory) :
    disk.follow true [] place = .ok (.directory place) := by
  rcases List.eq_nil_or_concat' place with rfl | ⟨above, name, rfl⟩
  · rfl
  · have inside := isTree.parents above name (by simp [isDirectory])
    obtain ⟨mode, found⟩ := shows'.directory isDirectory
    rw [follow_append shows' isTree [] true inside (by simp), List.nil_append, follow,
      found]
    rfl

omit shows' in
/-- On the way to something missing, there is a first missing thing. -/
theorem exists_missing (clear : inventory.Clear place) (missing : inventory place = none) :
    ∃ above name rest, place = above ++ name :: rest ∧ inventory above = some .directory ∧
      inventory (above ++ [name]) = none := by
  induction place using List.reverseRecOn with
  | nil => simp [isTree.root] at missing
  | append_singleton place name ih =>
      cases inside : inventory place with
      | none =>
          have clearAbove : inventory.Clear place := fun above before =>
            clear above (before.trans (List.prefix_append _ _))
          obtain ⟨above, first, rest, rfl, isDirectory, isMissing⟩ := ih clearAbove inside
          exact ⟨above, first, rest ++ [name], by simp, isDirectory, isMissing⟩
      | some node =>
          cases node with
          | directory => exact ⟨place, name, [], rfl, inside, missing⟩
          | file content mode =>
              exact absurd inside (clear place (List.prefix_append _ _) content mode)

/-- What is missing is found to be so, at its own place or above it. -/
theorem follow_missing (enters : Bool) (clear : inventory.Clear place)
    (missing : inventory place = none) :
    (enters = false ∧ ∃ above name, place = above ++ [name] ∧
        inventory above = some .directory ∧
        disk.follow enters [] place = .ok (.entry above name)) ∨
      disk.follow enters [] place = .error .notFound := by
  obtain ⟨above, name, rest, rfl, isDirectory, isMissing⟩ := exists_missing isTree clear missing
  have found := shows'.missing isMissing
  rw [follow_append shows' isTree [] enters isDirectory (by simp), List.nil_append,
    follow, found]
  cases rest with
  | nil =>
      cases enters with
      | false => exact Or.inl ⟨rfl, above, name, rfl, isDirectory, rfl⟩
      | true => exact Or.inr rfl
  | cons next rest => exact Or.inr rfl

/-- Without a directory to be in, nothing is found. -/
theorem follow_below_missing {name : List Char} (enters : Bool) (clear : inventory.Clear place)
    (missing : inventory place = none) :
    disk.follow enters [] (place ++ [name]) = .error .notFound := by
  have below : inventory (place ++ [name]) = none :=
    isTree.eq_none_of_prefix (List.prefix_append _ _) (by simp) (by simp [missing])
  rcases follow_missing shows' isTree enters (clear.concat below) below with
    ⟨-, above, last, same, isDirectory, -⟩ | fails
  · obtain ⟨rfl, -⟩ : place = above ∧ name = last := by simpa using same
    simp [missing] at isDirectory
  · exact fails

end Follow

end SelfUpdate.Disk
