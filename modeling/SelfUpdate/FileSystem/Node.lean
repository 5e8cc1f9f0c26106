import SelfUpdate.Path.Basic
import SelfUpdate.Bytes.Basic

/-!
# Files, directories and trees of them

A tree lists its nodes in path order, one for each list of components. The path
under which a node was first entered stays its spelling, whatever spelling later
operations use.
-/

namespace SelfUpdate

/-- The bits that give owner, group and others permission to write. -/
def writeBits : UInt32 := 0o222

/-- What is known of a file without reading it. -/
structure FileStat where
  mode : UInt32
  deriving DecidableEq, Repr

def FileStat.isWritable (stat : FileStat) : Bool :=
  stat.mode &&& writeBits != 0

/-- A file with its content and permission bits, or a directory. -/
inductive Node where
  | file (content : Bytes) (mode : UInt32)
  | directory
  deriving DecidableEq, Repr

/-- A node and the path under which it was entered. -/
structure Entry where
  path : Path
  node : Node
  deriving DecidableEq, Repr

/-- The nodes of a file system, in path order. -/
structure Tree where
  entries : List Entry
  deriving DecidableEq, Repr

namespace Tree

def empty : Tree := ⟨[]⟩

def find? (tree : Tree) (path : Path) : Option Node :=
  (tree.entries.find? (·.path.sameAs path)).map Entry.node

/-- Enter a node into a list in path order. An entry with the same components keeps its
spelling and gets the new node. -/
def insertEntry (path : Path) (node : Node) : List Entry → List Entry
  | [] => [⟨path, node⟩]
  | entry :: rest =>
      if entry.path.sameAs path then ⟨entry.path, node⟩ :: rest
      else if path.order entry.path = .lt then ⟨path, node⟩ :: entry :: rest
      else entry :: insertEntry path node rest

/-- The tree with a node at a path, whatever was there before. -/
def insert (tree : Tree) (path : Path) (node : Node) : Tree :=
  ⟨insertEntry path node tree.entries⟩

/-- The tree without the node at a path. Nodes below it stay. -/
def erase (tree : Tree) (path : Path) : Tree :=
  ⟨tree.entries.filter fun entry => !entry.path.sameAs path⟩

/-- The tree without the node at a path and all nodes below it. -/
def eraseBelow (tree : Tree) (path : Path) : Tree :=
  ⟨tree.entries.filter fun entry => !entry.path.liesIn path⟩

/-- The tree with a directory at a path where it has no node there. -/
def ensureDirectory (tree : Tree) (path : Path) : Tree :=
  match tree.find? path with
  | some _ => tree
  | none => tree.insert path .directory

end Tree

end SelfUpdate
