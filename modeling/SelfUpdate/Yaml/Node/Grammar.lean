import SelfUpdate.Yaml.Node.Basic
import SelfUpdate.Yaml.Token.Basic

/-!
# The document that a list of tokens describes

Nodes are read by recursive descent. A node that is missing where one may be missing
counts as an empty plain scalar.

An anchor gets as its number how many different names have been anchored before it.
So a name that is anchored once more gets a new number, and aliases after that mean
the new node.
-/

namespace SelfUpdate.Yaml

/-- What is left to read of a document, and the numbers of the anchored names. -/
structure Reading where
  tokens : List Token
  numbers : List (List Char × Nat)

/-- A reader of part of a document. It has no value if the document is malformed. -/
abbrev Reader (α : Type) := StateT Reading Option α

namespace Reader

/-- The next token, unless the document ends. -/
def peek : Reader (Option Token) := do
  return (← get).tokens.head?

def skip : Reader Unit :=
  modify fun reading => { reading with tokens := reading.tokens.drop 1 }

/-- Whether the next token is one of a list. -/
def sees (tokens : List Token) : Reader Bool := do
  return (← peek).any tokens.contains

/-- Give a name the number of a new anchor. -/
def anchor (name : List Char) : Reader Nat := do
  let reading ← get
  let number := reading.numbers.length
  let others := reading.numbers.filter (·.1 != name)
  set { reading with numbers := (name, number) :: others }
  return number

/-- The number of an anchored name. -/
def numberOf (name : List Char) : Reader Nat := do
  match (← get).numbers.lookup name with
  | some number => return number
  | none => failure

/-- Read an anchor, if there is one. -/
def anchorProperty : Reader (Option Nat) := do
  match ← peek with
  | some (.anchor name) =>
      skip
      return some (← anchor name)
  | _ => return none

/-- Read a tag, if there is one, whose handle must be known. -/
def tagProperty (handles : List (List Char)) : Reader Bool := do
  match ← peek with
  | some (.tag handle) =>
      skip
      if handle.all handles.contains then return true else failure
  | _ => return false

/-- The properties in front of a node. -/
structure Properties where
  anchor : Option Nat
  tagged : Bool

/-- Read an anchor and a tag, in either order. -/
def properties (handles : List (List Char)) : Reader Properties := do
  match ← anchorProperty with
  | some number => return ⟨some number, ← tagProperty handles⟩
  | none =>
      if ← tagProperty handles then return ⟨← anchorProperty, true⟩
      else return ⟨none, false⟩

/-- The node with its properties. -/
def Properties.apply (properties : Properties) (node : Node) : Node :=
  match properties.anchor with
  | some number => .anchored number node
  | none => node

mutual

/-- Read a node. Collections in lines may not occur within brackets, and a sequence that
is not indented only as an entry of a mapping. -/
def node (handles : List (List Char)) (inLines unindented : Bool) : (fuel : Nat) → Reader Node
  | 0 => failure
  | fuel + 1 => do
      match ← peek with
      | some (.alias name) =>
          skip
          return .alias (← numberOf name)
      | _ =>
          let properties ← properties handles
          return properties.apply (← content handles inLines unindented properties fuel)

/-- Read what follows the properties of a node. -/
def content (handles : List (List Char)) (inLines unindented : Bool)
    (properties : Properties) : (fuel : Nat) → Reader Node
  | 0 => failure
  | fuel + 1 => do
      match ← peek, inLines, unindented with
      | some .blockEntry, _, true => return .sequence (← unindentedItems handles fuel)
      | some (.scalar text plain), _, _ =>
          skip
          return .scalar text plain
      | some .flowSequenceStart, _, _ =>
          skip
          return .sequence (← flowItems handles true fuel)
      | some .flowMappingStart, _, _ =>
          skip
          return .mapping (← flowEntries handles true fuel)
      | some .blockSequenceStart, true, _ =>
          skip
          return .sequence (← blockItems handles fuel)
      | some .blockMappingStart, true, _ =>
          skip
          return .mapping (← blockEntries handles fuel)
      | _, _, _ =>
          if properties.tagged || properties.anchor.isSome then return .absent else failure

/-- Read a node, unless one of some tokens shows that it is missing. -/
def nodeUnless (handles : List (List Char)) (inLines unindented : Bool)
    (missing : List Token) : (fuel : Nat) → Reader Node
  | 0 => failure
  | fuel + 1 => do
      if ← sees missing then return .absent
      else node handles inLines unindented fuel

def blockItems (handles : List (List Char)) : (fuel : Nat) → Reader (List Node)
  | 0 => failure
  | fuel + 1 => do
      match ← peek with
      | some .blockEntry =>
          skip
          let item ← nodeUnless handles true false [.blockEntry, .blockEnd] fuel
          return item :: (← blockItems handles fuel)
      | some .blockEnd =>
          skip
          return []
      | _ => failure

def unindentedItems (handles : List (List Char)) : (fuel : Nat) → Reader (List Node)
  | 0 => failure
  | fuel + 1 => do
      match ← peek with
      | some .blockEntry =>
          skip
          let item ←
            nodeUnless handles true false [.blockEntry, .key, .value, .blockEnd] fuel
          return item :: (← unindentedItems handles fuel)
      | _ => return []

/-- Read the value of an entry of a mapping, if there is one. -/
def value (handles : List (List Char)) (inLines : Bool) (missing : List Token) :
    (fuel : Nat) → Reader Node
  | 0 => failure
  | fuel + 1 => do
      match ← peek with
      | some .value =>
          skip
          nodeUnless handles inLines inLines missing fuel
      | _ => return .absent

/-- Read the entries of a mapping in lines. -/
def blockEntries (handles : List (List Char)) : (fuel : Nat) → Reader (List (Node × Node))
  | 0 => failure
  | fuel + 1 => do
      match ← peek with
      | some .key =>
          skip
          let missing := [.key, .value, .blockEnd]
          let key ← nodeUnless handles true true missing fuel
          let value ← value handles true missing fuel
          return (key, value) :: (← blockEntries handles fuel)
      | some .blockEnd =>
          skip
          return []
      | _ => failure

/-- Read the items of a sequence in brackets, which are separated by commas. -/
def flowItems (handles : List (List Char)) (first : Bool) : (fuel : Nat) → Reader (List Node)
  | 0 => failure
  | fuel + 1 => do
      let comma ← sees [.flowEntry]
      if comma && !first then skip
      match ← peek with
      | some .flowSequenceEnd =>
          skip
          return []
      | some .key =>
          if !first && !comma then failure
          skip
          let entry ← flowPair handles fuel
          return .mapping [entry] :: (← flowItems handles false fuel)
      | _ =>
          if !first && !comma then failure
          let item ← node handles false false fuel
          return item :: (← flowItems handles false fuel)

/-- Read the only entry of a mapping that is an item of a sequence in brackets. A sign for
a key without a key takes the token after it along. -/
def flowPair (handles : List (List Char)) : (fuel : Nat) → Reader (Node × Node)
  | 0 => failure
  | fuel + 1 => do
      let key ←
        if ← sees [.value, .flowEntry, .flowSequenceEnd] then do
          skip
          pure .absent
        else node handles false false fuel
      return (key, ← value handles false [.flowEntry, .flowSequenceEnd] fuel)

/-- Read the entries of a mapping in brackets, which are separated by commas. -/
def flowEntries (handles : List (List Char)) (first : Bool) :
    (fuel : Nat) → Reader (List (Node × Node))
  | 0 => failure
  | fuel + 1 => do
      let comma ← sees [.flowEntry]
      if comma && !first then skip
      match ← peek with
      | some .flowMappingEnd =>
          skip
          return []
      | some .key =>
          if !first && !comma then failure
          skip
          let key ← nodeUnless handles false false [.value, .flowEntry, .flowMappingEnd] fuel
          let value ← value handles false [.flowEntry, .flowMappingEnd] fuel
          return (key, value) :: (← flowEntries handles false fuel)
      | _ =>
          if !first && !comma then failure
          let key ← node handles false false fuel
          return (key, .absent) :: (← flowEntries handles false fuel)

end

/-- The handles that are known without being declared. -/
def knownHandles : List (List Char) := [['!'], ['!', '!']]

/-- Read the directives in front of a document, and return the handles they declare. Each
handle may be declared once, and the version at most once. -/
def directives (versioned : Bool) (handles : List (List Char)) : (fuel : Nat) →
    Reader (List (List Char))
  | 0 => failure
  | fuel + 1 => do
      match ← peek with
      | some (.versionDirective major minor) =>
          if versioned || major != 1 || (minor != 1 && minor != 2) then failure
          skip
          directives true handles fuel
      | some (.tagDirective handle) =>
          if handles.contains handle then failure
          skip
          directives versioned (handle :: handles) fuel
      | _ => return handles

/-- Whether the next token begins a document or what stands in front of one. -/
def seesDocumentStart : Reader Bool := do
  match ← peek with
  | some (.versionDirective _ _) | some (.tagDirective _) | some .documentStart => return true
  | _ => return false

/-- Read the signs for the end of the document, and nothing after them. -/
def documentEnd : Reader Unit := do
  let reading ← get
  if (reading.tokens.dropWhile (· == .documentEnd)).isEmpty then return () else failure

/-- Read the only document of a text, if there is any. -/
def document (fuel : Nat) : Reader (Option Node) := do
  if (← peek).isNone then return none
  let node ←
    if ← seesDocumentStart then do
      let handles ← directives false [] fuel
      if !(← sees [.documentStart]) then failure
      skip
      let missing :=
        (← seesDocumentStart) || (← sees [.documentEnd]) || (← peek).isNone
      if missing then pure .absent
      else node (handles ++ knownHandles) true false fuel
    else node knownHandles true false fuel
  documentEnd
  return some node

end Reader

/-- The only document that some tokens describe, or none if they describe none. Reading
takes fewer steps than four for each token. -/
def Node.ofTokens? (tokens : List Token) : Option (Option Node) :=
  ((Reader.document (4 * tokens.length + 4)).run ⟨tokens, []⟩).map Prod.fst

end SelfUpdate.Yaml
