/-!
# Release versions

A version has three numbers of 64 bits, a list of pre-release identifiers and a
list of build identifiers. Its text is `major.minor.patch`, followed by `-` and
the pre-release identifiers, and by `+` and the build identifiers, where there
are any; identifiers are joined by dots. The finalized form is the text of the
three numbers alone.
-/

namespace SelfUpdate

/-- A dot-separated part of a pre-release or of build metadata. -/
abbrev Identifier := List Char

/-- A semantic version. -/
structure Version where
  major : UInt64
  minor : UInt64
  patch : UInt64
  preRelease : List Identifier
  build : List Identifier
  deriving DecidableEq, Repr

namespace Version

/-- A number in decimal digits, without leading zeros. -/
def decimal (number : UInt64) : List Char :=
  Nat.toDigits 10 number.toNat

/-- Identifiers joined by dots. -/
def dotted (identifiers : List Identifier) : List Char :=
  List.intercalate ['.'] identifiers

/-- A suffix of a version's text: nothing if it has no identifiers. -/
def suffix (mark : Char) : List Identifier → List Char
  | [] => []
  | identifiers => mark :: dotted identifiers

def core (version : Version) : List Char :=
  decimal version.major ++ '.' :: decimal version.minor ++ '.' :: decimal version.patch

def render (version : Version) : List Char :=
  version.core ++ suffix '-' version.preRelease ++ suffix '+' version.build

/-- The full text, with pre-release and build metadata. -/
def display (version : Version) : String :=
  String.ofList version.render

/-- The text without pre-release and build metadata. -/
def finalized (version : Version) : String :=
  String.ofList version.core

@[simp] theorem suffix_nil (mark : Char) : suffix mark [] = [] := rfl

end Version

end SelfUpdate
