/-!
# Paths

A path is kept as its components together with the spelling that produced them.
Components are what paths are compared by: repeated and trailing slashes and `.`
parts leave none, except a `.` at the front of a relative path, while `..` always
leaves one. A leading slash is a root component of its own.

The spelling is kept because messages show it. Each step of a path holds a
component and the characters between it and the component before, and the path
ends in the characters after its last component.
-/

namespace SelfUpdate

/-- One meaningful part of a path. -/
inductive Component where
  | root
  | current
  | parent
  | name (letters : List Char)
  deriving DecidableEq, Repr

namespace Component

def letters : Component → List Char
  | .root => ['/']
  | .current => ['.']
  | .parent => ['.', '.']
  | .name letters => letters

/-- The component that a part between slashes stands for; the caller has set aside
empty parts and `.`. -/
def ofPart (part : List Char) : Component :=
  if part = ['.', '.'] then .parent else .name part

/-- The rank of the four kinds in the order of paths. -/
def rank : Component → Nat
  | .root => 0
  | .current => 1
  | .parent => 2
  | .name _ => 3

/-- The order of components: by kind, and names by their code points. -/
def order : Component → Component → Ordering
  | .name left, .name right => compare left right
  | left, right => compare left.rank right.rank

end Component

/-- A component and the characters that separate it from the one before. -/
structure Step where
  gap : List Char
  component : Component
  deriving DecidableEq, Repr

/-- A path: its components, each with the spelling in front of it, and the spelling
after the last. -/
structure Path where
  steps : List Step
  tail : List Char
  deriving DecidableEq, Repr

namespace Path

def components (path : Path) : List Component :=
  path.steps.map Step.component

def letters (path : Path) : List Char :=
  path.steps.flatMap (fun step => step.gap ++ step.component.letters) ++ path.tail

def text (path : Path) : String :=
  String.ofList path.letters

/-- Read the parts between slashes, with the characters since the last component. -/
def readParts (gap : List Char) : List (List Char) → List Step × List Char
  | [] => ([], gap)
  | part :: rest =>
      let separator := if rest.isEmpty then [] else ['/']
      if part = [] ∨ part = ['.'] then readParts (gap ++ part ++ separator) rest
      else
        let (steps, tail) := readParts separator rest
        (⟨gap, Component.ofPart part⟩ :: steps, tail)

def ofChars (letters : List Char) : Path :=
  match letters with
  | '/' :: rest =>
      let (steps, tail) := readParts [] (rest.splitOn '/')
      ⟨⟨[], .root⟩ :: steps, tail⟩
  | _ =>
      match letters.splitOn '/' with
      | ['.'] :: rest =>
          let (steps, tail) := readParts (if rest.isEmpty then [] else ['/']) rest
          ⟨⟨[], .current⟩ :: steps, tail⟩
      | parts =>
          let (steps, tail) := readParts [] parts
          ⟨steps, tail⟩

def ofString (text : String) : Path :=
  ofChars text.toList

def isEmpty (path : Path) : Bool :=
  path.steps.isEmpty

/-- The ancestors of a path whose steps are given last first. The root and the path
without components have none. -/
def ancestorsOfReversed : List Step → List Path
  | [] => []
  | ⟨_, .root⟩ :: _ => []
  | _ :: rest => ⟨rest.reverse, []⟩ :: ancestorsOfReversed rest

/-- A path and its ancestors, the longest first. Each ancestor ends right after its last
component. -/
def ancestors (path : Path) : List Path :=
  path :: ancestorsOfReversed path.steps.reverse

/-- The path without its last component. The root and the path without components have
no parent. -/
def parent (path : Path) : Option Path :=
  match path.steps.reverse with
  | [] => none
  | ⟨_, .root⟩ :: _ => none
  | _ :: rest => some ⟨rest.reverse, []⟩

/-- Whether the components of a path begin with those of another: it is the other, or
lies somewhere below. -/
def liesIn (path base : Path) : Bool :=
  base.components.isPrefixOf path.components

def sameAs (path other : Path) : Bool :=
  path.components == other.components

/-- The slash to write between a path and a name below it, if it needs one. -/
def joint (path : Path) : List Char :=
  match path.letters.getLast? with
  | none | some '/' => []
  | some _ => ['/']

/-- The path of an entry with a plain name. -/
def child (path : Path) (name : List Char) : Path :=
  ⟨path.steps ++ [⟨path.tail ++ path.joint, .name name⟩], []⟩

/-- The path whose spelling is longer by the given characters. -/
def extend (path : Path) (ending : List Char) : Path :=
  ofChars (path.letters ++ ending)

/-- The order of component lists: from left to right, a shorter list before its
extensions. -/
def orderComponents : List Component → List Component → Ordering
  | [], [] => .eq
  | [], _ :: _ => .lt
  | _ :: _, [] => .gt
  | left :: lefts, right :: rights => (left.order right).then (orderComponents lefts rights)

def order (left right : Path) : Ordering :=
  orderComponents left.components right.components

end Path

end SelfUpdate
