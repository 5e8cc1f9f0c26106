import SelfUpdate.FileSystem.Failure
import SelfUpdate.FileSystem.Node

/-!
# A file system in memory

`Memory` is a tree with a counter of created files and two switches that make
operations fail. A `Host` is a program's view of it: where its executable lies,
which directory is for temporary files, and whether that directory is a volume
of its own. Several hosts may share one memory.

Every operation returns its result and the memory afterwards; a failed one
returns the memory it was given.
-/

namespace SelfUpdate

/-- An in-memory file system. It counts the files that have been created or truncated. It can
refuse all renames, and all writes to files created in one directory. -/
structure Memory where
  tree : Tree
  created : Nat
  failingWrites : Option Path
  failingRenames : Bool
  deriving DecidableEq, Repr

/-- A program's view of a file system. Renames out of a separate temporary directory cross
volumes. -/
structure Host where
  executable : Path
  temporary : Path
  separateTemporary : Bool
  deriving DecidableEq, Repr

/-- An open file of the in-memory file system. It names the file by its path and knows
from its creation whether its writes fail. -/
structure Writer where
  path : Path
  fails : Bool
  deriving DecidableEq, Repr

/-- The host of a program at a path, with `/tmp` as temporary directory. -/
def Host.ofExecutable (executable : Path) : Host :=
  ⟨executable, Path.ofString "/tmp", false⟩

namespace Memory

/-- The file system that holds nothing but the temporary directory of a host. -/
def initial (host : Host) : Memory :=
  ⟨Tree.empty.insert host.temporary .directory, 0, none, false⟩

/-- Create a directory and its missing ancestors. Nodes that are there already stay,
whatever they are. -/
def createDirectory (memory : Memory) (path : Path) : Memory :=
  let missing := path.ancestors.filter fun ancestor => !ancestor.isEmpty
  { memory with tree := missing.foldl Tree.ensureDirectory memory.tree }

/-- Put a file at a path, with the missing directories above it. -/
def addFile (memory : Memory) (path : Path) (content : Bytes) (mode : UInt32) : Memory :=
  let memory :=
    match path.parent with
    | some parent => memory.createDirectory parent
    | none => memory
  { memory with tree := memory.tree.insert path (.file content mode) }

def read (memory : Memory) (path : Path) : Option Bytes :=
  match memory.tree.find? path with
  | some (.file content _) => some content
  | _ => none

def mode (memory : Memory) (path : Path) : Option UInt32 :=
  match memory.tree.find? path with
  | some (.file _ mode) => some mode
  | _ => none

/-- What is known of the node at a path. Directories have the mode 755. -/
def stat (memory : Memory) (path : Path) : Except Failure FileStat :=
  match memory.tree.find? path with
  | some (.file _ mode) => .ok ⟨mode⟩
  | some .directory => .ok ⟨0o755⟩
  | none => .error (.missing path)

/-- Whether a file at a path may be created: its parent, if it has one, is a directory. -/
def parentFault (memory : Memory) (path : Path) : Option Failure :=
  match path.parent with
  | none => none
  | some parent =>
      match memory.tree.find? parent with
      | some .directory => none
      | _ => some (.missing parent)

/-- Create an empty file, or replace what is at the path by one, and open it. -/
def create (memory : Memory) (path : Path) (mode : UInt32) :
    Except Failure Writer × Memory :=
  match memory.parentFault path with
  | some failure => (.error failure, memory)
  | none =>
      (.ok ⟨path, memory.failingWrites.any path.liesIn⟩,
        { memory with
          tree := memory.tree.insert path (.file [] mode)
          created := memory.created + 1 })

def write (memory : Memory) (writer : Writer) (bytes : Bytes) :
    Except Failure Nat × Memory :=
  if writer.fails then (.error .volumeFull, memory)
  else
    match memory.tree.find? writer.path with
    | some (.file content mode) =>
        (.ok bytes.length,
          { memory with tree := memory.tree.insert writer.path (.file (content ++ bytes) mode) })
    | _ => (.error (.missing writer.path), memory)

/-- Whether a rename leaves a temporary directory that is a volume of its own. -/
def crossesVolumes (host : Host) (source target : Path) : Bool :=
  host.separateTemporary && source.liesIn host.temporary && !target.liesIn host.temporary

/-- Move the node at one path to another, replacing what is there. Only the node itself
moves. -/
def rename (memory : Memory) (host : Host) (source target : Path) :
    Except Failure Unit × Memory :=
  if crossesVolumes host source target then (.error .acrossVolumes, memory)
  else if memory.failingRenames then (.error .renameRefused, memory)
  else
    match memory.tree.find? source with
    | none => (.error (.missing source), memory)
    | some node =>
        (.ok (), { memory with tree := (memory.tree.erase source).insert target node })

/-- Remove the node at a path and all below it; nothing there is no failure. -/
def removeAll (memory : Memory) (path : Path) : Memory :=
  { memory with tree := memory.tree.eraseBelow path }

end Memory

end SelfUpdate
