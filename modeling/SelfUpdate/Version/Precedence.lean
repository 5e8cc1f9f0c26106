import SelfUpdate.Version.Parse

/-!
# Precedence of versions

Versions are ordered by their numbers, then by their pre-release. A version
without pre-release comes after those with one. Identifiers are compared from
left to right: digits by their value and before all others, the others by their
characters; where one list is a beginning of the other, the shorter comes first.
Build metadata plays no part.
-/

namespace SelfUpdate.Version

/-- The value of a numeric identifier of any length. -/
def numericValue (identifier : Identifier) : Nat :=
  Nat.ofDigitChars 10 identifier 0

/-- The order of single identifiers. -/
def compareIdentifier (left right : Identifier) : Ordering :=
  match isNumeric left, isNumeric right with
  | true, true => compare (numericValue left) (numericValue right)
  | true, false => .lt
  | false, true => .gt
  | false, false => compare left right

/-- The order of identifier lists, from left to right. -/
def compareIdentifiers : List Identifier → List Identifier → Ordering
  | [], [] => .eq
  | [], _ :: _ => .lt
  | _ :: _, [] => .gt
  | left :: lefts, right :: rights =>
      (compareIdentifier left right).then (compareIdentifiers lefts rights)

/-- The order of pre-releases: none at all comes last. -/
def comparePreRelease : List Identifier → List Identifier → Ordering
  | [], [] => .eq
  | [], _ :: _ => .gt
  | _ :: _, [] => .lt
  | lefts, rights => compareIdentifiers lefts rights

def precedence (left right : Version) : Ordering :=
  (compare left.major right.major).then <|
    (compare left.minor right.minor).then <|
      (compare left.patch right.patch).then <|
        comparePreRelease left.preRelease right.preRelease

/-- Two versions name the same release if neither precedes the other. -/
def sameRelease (left right : Version) : Bool :=
  precedence left right == .eq

end SelfUpdate.Version
