/-!
# Nodes of a YAML document

A document is a tree of scalars, sequences and mappings. A node may be anchored under
a number, and an alias with that number stands for it anywhere later in the document,
even within the node itself.
-/

namespace SelfUpdate.Yaml

/-- A node of a document. Plain scalars are written without quotation marks or indentation. -/
inductive Node where
  | scalar (text : String) (plain : Bool)
  | sequence (items : List Node)
  | mapping (entries : List (Node × Node))
  | alias (number : Nat)
  | anchored (number : Nat) (node : Node)
  deriving Repr

namespace Node

/-- The node that is not written at all. -/
def absent : Node := .scalar "" true

mutual

/-- The anchored nodes of a tree, in the order in which they begin. -/
def anchors : Node → List (Nat × Node)
  | .scalar _ _ => []
  | .sequence items => anchorsOfItems items
  | .mapping entries => anchorsOfEntries entries
  | .alias _ => []
  | .anchored number node => (number, node) :: node.anchors

/-- The anchored nodes of the items of a sequence. -/
def anchorsOfItems : List Node → List (Nat × Node)
  | [] => []
  | item :: items => item.anchors ++ anchorsOfItems items

/-- The anchored nodes of the entries of a mapping. -/
def anchorsOfEntries : List (Node × Node) → List (Nat × Node)
  | [] => []
  | (key, value) :: entries => key.anchors ++ value.anchors ++ anchorsOfEntries entries

end

/-- What a node stands for: an alias for the node that was anchored last under its
number. -/
def target (table : List (Nat × Node)) : Node → Option Node
  | .alias number => table.reverse.lookup number
  | .anchored _ node => some node
  | node => some node

end Node

end SelfUpdate.Yaml
