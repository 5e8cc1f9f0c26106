import SelfUpdate.Text.Quoted

/-!
# Why a text is not a version

A version is read from left to right, so the first thing that is wrong decides.
Each fault names the position at which reading stood.
-/

namespace SelfUpdate.Version

/-- The parts of a version, in reading order. -/
inductive Position where
  | major
  | minor
  | patch
  | preRelease
  | build
  deriving DecidableEq, Repr

/-- The first fault found when reading a version. The end is unexpected inside a part or before
the dot after it, and a character after a part if the part is complete. -/
inductive ParseError where
  | empty
  | unexpectedEnd (position : Position)
  | unexpectedCharacter (position : Position) (character : Char)
  | unexpectedAfter (position : Position) (character : Char)
  | leadingZero (position : Position)
  | tooLarge (position : Position)
  | emptyIdentifier (position : Position)
  deriving DecidableEq, Repr

def Position.description : Position → String
  | .major => "major version number"
  | .minor => "minor version number"
  | .patch => "patch version number"
  | .preRelease => "pre-release identifier"
  | .build => "build metadata"

def ParseError.message : ParseError → String
  | .empty => "empty string, expected a semver version"
  | .unexpectedEnd position =>
      "unexpected end of input while parsing " ++ position.description
  | .unexpectedCharacter position character =>
      "unexpected character " ++ Text.quotedCharacter character ++ " while parsing " ++
        position.description
  | .unexpectedAfter position character =>
      "unexpected character " ++ Text.quotedCharacter character ++ " after " ++
        position.description
  | .leadingZero position => "invalid leading zero in " ++ position.description
  | .tooLarge position => "value of " ++ position.description ++ " exceeds u64::MAX"
  | .emptyIdentifier position => "empty identifier segment in " ++ position.description

end SelfUpdate.Version
