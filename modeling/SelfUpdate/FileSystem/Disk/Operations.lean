import SelfUpdate.FileSystem.Disk.Basic

/-!
# Operations on a disk

The calls of the operating system that an update needs, for a process that may do
everything. Each returns its result and the disk afterwards.
-/

namespace SelfUpdate

structure DiskWriter where
  place : Place
  deriving DecidableEq, Repr

namespace Disk

/-- The node that a path leads to, following symbolic links. -/
def nodeAt (disk : Disk) (path : Path) : Except Failure (Place × Inode) := do
  let destination ← disk.resolve true path (strictParts path.letters)
  match disk.find? destination.place with
  | some inode => return (destination.place, inode)
  | none => .error (.system .notFound)

def isDirectory (disk : Disk) (path : Path) : Bool :=
  match disk.nodeAt path with
  | .ok (_, .directory _) => true
  | _ => false

def stat (disk : Disk) (path : Path) : Except Failure FileStat := do
  match ← disk.nodeAt path with
  | (_, .file _ mode) | (_, .directory mode) => return ⟨mode &&& 0o7777⟩
  | (_, .link _) => .error (.system .linkLoop)

def contentAt (disk : Disk) (path : Path) : Except Failure Bytes := do
  match ← disk.nodeAt path with
  | (_, .file content _) => return content
  | (_, .directory _) => .error (.system .isADirectory)
  | (_, .link _) => .error (.system .linkLoop)

/-- Open a new or emptied file for writing and give it the permission bits of a mode. -/
def create (disk : Disk) (path : Path) (mode : UInt32) :
    Except Failure DiskWriter × Disk :=
  match disk.resolve true path (parts path.letters) with
  | .error failure => (.error failure, disk)
  | .ok (.directory _) => (.error (.system .isADirectory), disk)
  | .ok (.entry directory name) =>
      let place := directory ++ [name]
      let opened := (.ok ⟨place⟩, disk.insert place (.file [] (mode &&& 0o7777)))
      if meansDirectory path.letters then (.error (.system .isADirectory), disk)
      else
        match disk.find? place with
        | some (.directory _) => (.error (.system .isADirectory), disk)
        | some (.link _) => (.error (.system .linkLoop), disk)
        | some (.file _ _) | none => opened

/-- The permission bits that a file keeps when it is written to: the bit that lends its
owner's rights goes, and the one that lends its group's if the group may execute it. -/
def modeAfterWrite (mode : UInt32) : UInt32 :=
  let mode := mode &&& 0o3777
  if mode &&& 0o2010 = 0o2010 then mode &&& 0o1777 else mode

def write (disk : Disk) (writer : DiskWriter) (bytes : Bytes) :
    Except Failure Nat × Disk :=
  match disk.find? writer.place with
  | some (.file content mode) =>
      if bytes.isEmpty then (.ok 0, disk)
      else
        (.ok bytes.length,
          disk.insert writer.place (.file (content ++ bytes) (modeAfterWrite mode)))
  | _ => (.error (.system .notFound), disk)

def makeDirectory (disk : Disk) (path : Path) : Except Failure Unit × Disk :=
  match disk.resolve false path (parts path.letters) with
  | .error failure => (.error failure, disk)
  | .ok (.directory _) => (.error (.system .exists), disk)
  | .ok (.entry directory name) =>
      let place := directory ++ [name]
      match disk.find? place with
      | some _ => (.error (.system .exists), disk)
      | none => (.ok (), disk.insert place (.directory (0o777 &&& ~~~disk.umask)))

/-- Create directories from the shortest of the given paths on, the shortest being last.
One that exists by now is no failure. -/
def makeDirectories (disk : Disk) : List Path → Except Failure Unit × Disk
  | [] => (.ok (), disk)
  | path :: longer =>
      match disk.makeDirectory path with
      | (.ok (), disk) => disk.makeDirectories longer
      | (.error failure, disk) =>
          if failure.kind = .alreadyExists && disk.isDirectory path then
            disk.makeDirectories longer
          else (.error failure, disk)

/-- Create the first of the given paths, the longest first, for which that is possible, and
then the longer ones, which are kept shortest first. -/
def createFirst (disk : Disk) (longer : List Path) : List Path → Except Failure Unit × Disk
  | [] => disk.makeDirectories longer
  | path :: shorter =>
      if path.isEmpty then disk.makeDirectories longer
      else
        match disk.makeDirectory path with
        | (.ok (), disk) => disk.makeDirectories longer
        | (.error failure, disk) =>
            if failure.kind = .notFound then disk.createFirst (path :: longer) shorter
            else if failure.kind = .alreadyExists && disk.isDirectory path then
              disk.makeDirectories longer
            else (.error failure, disk)

/-- Create a directory and its missing ancestors. -/
def createDirectory (disk : Disk) (path : Path) : Except Failure Unit × Disk :=
  disk.createFirst [] path.ancestors

/-- Whether a node may be renamed to a place. -/
def renameFault (disk : Disk) (source target : Place) (inode : Inode)
    (slashes : Bool) : Option SystemFault :=
  let isDirectory := match inode with
    | .directory _ => true
    | _ => false
  if slashes && !isDirectory then some .notADirectory
  else if source.isPrefixOf target && source != target then some .invalidArgument
  else if target.isPrefixOf source && source != target then some .notEmpty
  else
    match disk.find? target, isDirectory with
    | none, _ => none
    | some (.directory _), false => some .isADirectory
    | some (.directory _), true =>
        if source != target && disk.hasChildren target then some .notEmpty else none
    | some _, true => some .notADirectory
    | some _, false => none

/-- Move a node to another path, replacing what is there if it can be replaced. Symbolic
links are moved and replaced themselves. -/
def rename (disk : Disk) (source target : Path) : Except Failure Unit × Disk :=
  match disk.resolve false source (parts source.letters),
      disk.resolve false target (parts target.letters) with
  | .error failure, _ => (.error failure, disk)
  | _, .error failure => (.error failure, disk)
  | .ok (.directory _), .ok _ => (.error (.system .busy), disk)
  | .ok _, .ok (.directory _) => (.error (.system .busy), disk)
  | .ok (.entry directory name), .ok (.entry directory' name') =>
      let place := directory ++ [name]
      let place' := directory' ++ [name']
      match disk.find? place with
      | none => (.error (.system .notFound), disk)
      | some inode =>
          let slashes := meansDirectory source.letters || meansDirectory target.letters
          match disk.renameFault place place' inode slashes with
          | some fault => (.error (.system fault), disk)
          | none => (.ok (), if place = place' then disk else disk.relocate place place')

/-- Remove a node and all below it; nothing there is no failure. A symbolic link is
removed itself, unless the path ends in a slash. -/
def removeAll (disk : Disk) (path : Path) : Except Failure Unit × Disk :=
  match disk.resolve false path (parts path.letters) with
  | .error failure => if failure.kind = .notFound then (.ok (), disk) else (.error failure, disk)
  | .ok (.directory place) =>
      let fault : SystemFault :=
        match (parts path.letters).getLast? with
        | none => .busy
        | some ['.'] => .invalidArgument
        | some _ => .notEmpty
      (.error (.system fault), disk.eraseBelow place)
  | .ok (.entry directory name) =>
      let place := directory ++ [name]
      let slash := meansDirectory path.letters
      match disk.find? place with
      | none => (.ok (), disk)
      | some (.file _ _) =>
          if slash then (.error (.system .notADirectory), disk) else (.ok (), disk.erase place)
      | some (.directory _) => (.ok (), disk.erase place)
      | some (.link _) =>
          if slash then
            match disk.nodeAt path with
            | .ok (target, _) => (.error (.system .notADirectory), disk.eraseBelow target)
            | .error failure =>
                if failure.kind = .notFound then (.ok (), disk) else (.error failure, disk)
          else (.ok (), disk.erase place)

/-- Create a symbolic link. -/
def makeLink (disk : Disk) (path : Path) (target : List Char) : Except Failure Unit × Disk :=
  if target.isEmpty then (.error (.system .notFound), disk)
  else
    match disk.resolve false path (parts path.letters) with
    | .error failure => (.error failure, disk)
    | .ok (.directory _) => (.error (.system .exists), disk)
    | .ok (.entry directory name) =>
        let place := directory ++ [name]
        match disk.find? place with
        | some _ => (.error (.system .exists), disk)
        | none =>
            if meansDirectory path.letters then (.error (.system .notFound), disk)
            else (.ok (), disk.insert place (.link target))

/-- Create a file with some content: the writes and the closing of it are one step. -/
def writeFile (disk : Disk) (path : Path) (mode : UInt32) (content : Bytes) :
    Except Failure Unit × Disk :=
  match disk.create path mode with
  | (.error failure, disk) => (.error failure, disk)
  | (.ok writer, disk) =>
      match disk.write writer content with
      | (.error failure, disk) => (.error failure, disk)
      | (.ok _, disk) => (.ok (), disk)

/-- The order of places: a directory before what lies below it, and names by their code
points. -/
def placeOrder : Place → Place → Bool
  | [], _ => true
  | _ :: _, [] => false
  | left :: lefts, right :: rights =>
      match compare left right with
      | .lt => true
      | .gt => false
      | .eq => placeOrder lefts rights

/-- The nodes below a place in order, their places as seen from there. -/
def listing (disk : Disk) (place : Place) : List (Place × Inode) :=
  let below := disk.nodes.filterMap fun node =>
    if place.isPrefixOf node.1 && node.1 != place then
      some (node.1.drop place.length, node.2)
    else none
  below.mergeSort fun left right => placeOrder left.1 right.1

end Disk

end SelfUpdate
