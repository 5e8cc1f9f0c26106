import SelfUpdate.FileSystem.Failure
import SelfUpdate.FileSystem.Node

/-!
# A disk with directories, files and symbolic links

A disk knows each of its nodes by the names on the way to it from the root. The
root itself is always a directory. Paths are resolved against the working
directory: `.` and `..` are followed as they come, and a symbolic link is replaced
by its target.
-/

namespace SelfUpdate

/-- What a name on a disk stands for. -/
inductive Inode where
  | file (content : Bytes) (mode : UInt32)
  | directory (mode : UInt32)
  | link (target : List Char)
  deriving DecidableEq, Repr

/-- The names on the way from the root to a node. -/
abbrev Place := List (List Char)

/-- A disk as one process sees it. Its nodes are all but the root, and new directories do not
get the permission bits of the mask. -/
structure Disk where
  nodes : List (Place × Inode)
  workingDirectory : Place
  umask : UInt32
  deriving DecidableEq, Repr

/-- Where a path leads: to a name in a directory, whether or not something has that name, or to
a directory named by `.` or `..`, or the root. -/
inductive Destination where
  | entry (directory : Place) (name : List Char)
  | directory (place : Place)
  deriving DecidableEq, Repr

namespace Disk

/-- The longest name, in bytes. -/
def maxName : Nat := 255

/-- The longest path, in bytes. -/
def maxPath : Nat := 4095

/-- How many symbolic links a path may lead through. -/
def maxLinks : Nat := 40

def find? (disk : Disk) (place : Place) : Option Inode :=
  if place.isEmpty then some (.directory 0o755) else disk.nodes.lookup place

/-- The disk without the nodes at and below a place. -/
def erase (disk : Disk) (place : Place) : Disk :=
  { disk with nodes := disk.nodes.filter fun node => !place.isPrefixOf node.1 }

/-- The disk without the nodes below a place. -/
def eraseBelow (disk : Disk) (place : Place) : Disk :=
  { disk with
    nodes := disk.nodes.filter fun node => !(place.isPrefixOf node.1 && node.1 != place) }

def insert (disk : Disk) (place : Place) (inode : Inode) : Disk :=
  { disk with nodes := (place, inode) :: disk.nodes.filter fun node => node.1 != place }

def hasChildren (disk : Disk) (place : Place) : Bool :=
  disk.nodes.any fun node => place.isPrefixOf node.1 && node.1 != place

/-- The disk after the node at one place, with all below it, has gone to another. -/
def relocate (disk : Disk) (source target : Place) : Disk :=
  let moved := disk.nodes.filterMap fun node =>
    if source.isPrefixOf node.1 then some (target ++ node.1.drop source.length, node.2) else none
  let disk := (disk.erase source).erase target
  { disk with nodes := moved ++ disk.nodes }

/-- The parts of a path's letters between slashes. -/
def parts (letters : List Char) : List (List Char) :=
  (letters.splitOn '/').filter (!·.isEmpty)

def fromRoot (letters : List Char) : Bool :=
  letters.head? == some '/'

/-- Whether a path's letters end in a slash, so that only a directory can be meant. -/
def meansDirectory (letters : List Char) : Bool :=
  letters.getLast? == some '/'

/-- The parts of a path that must lead to a directory if they end in a slash. -/
def strictParts (letters : List Char) : List (List Char) :=
  parts letters ++ if meansDirectory letters then [['.']] else []

def byteCount (letters : List Char) : Nat :=
  (letters.map Char.utf8Size).foldr (· + ·) 0

/-- Go along the parts of a path from a directory. The last part may be missing, and is
followed if it is a symbolic link and should be. -/
def walk (disk : Disk) (followLast : Bool) (links : Nat) (here : Place) :
    List (List Char) → Except SystemFault Destination
  | [] => .ok (.directory here)
  | part :: rest =>
      if part = ['.'] then disk.walk followLast links here rest
      else if part = ['.', '.'] then disk.walk followLast links here.dropLast rest
      else if maxName < byteCount part then .error .nameTooLong
      else
        let place := here ++ [part]
        match disk.find? place with
        | none => if rest.isEmpty then .ok (.entry here part) else .error .notFound
        | some (.file _ _) => if rest.isEmpty then .ok (.entry here part) else .error .notADirectory
        | some (.directory _) =>
            if rest.isEmpty then .ok (.entry here part)
            else disk.walk followLast links place rest
        | some (.link target) =>
            if rest.isEmpty && !followLast then .ok (.entry here part)
            else
              match links with
              | 0 => .error .linkLoop
              | links + 1 =>
                  disk.walk followLast links (if fromRoot target then [] else here)
                    (strictParts target ++ rest)
termination_by parts => (links, parts.length)

/-- Whether a path can be given to the system at all. -/
def pathFault (path : Path) : Option Failure :=
  let letters := path.letters
  if letters.contains '\x00' then some .nulInPath
  else if letters.isEmpty then some (.system .notFound)
  else if maxPath < byteCount letters then some (.system .nameTooLong)
  else none

/-- Where a path leads, going along the given parts of it. -/
def resolve (disk : Disk) (followLast : Bool) (path : Path) (parts : List (List Char)) :
    Except Failure Destination :=
  match pathFault path with
  | some failure => .error failure
  | none =>
      let start := if fromRoot path.letters then [] else disk.workingDirectory
      (disk.walk followLast maxLinks start parts).mapError .system

end Disk

/-- The directory for temporary files: what the environment says, even if it is empty, and
else `/tmp`. -/
def temporaryDirectory (setting : Option String) : String :=
  setting.getD "/tmp"

def Destination.place : Destination → Place
  | .entry parent name => parent ++ [name]
  | .directory place => place

end SelfUpdate
