/-!
# Blank characters and trimming

A character is blank when the Unicode property White_Space holds of it. Trimming
removes the blank characters at both ends of a text and leaves those inside.
-/

namespace SelfUpdate.Text

/-- The blank code points as ranges, ends included. -/
def blankRanges : List (Nat × Nat) :=
  [(0x9, 0xd), (0x20, 0x20), (0x85, 0x85), (0xa0, 0xa0), (0x1680, 0x1680), (0x2000, 0x200a),
    (0x2028, 0x2029), (0x202f, 0x202f), (0x205f, 0x205f), (0x3000, 0x3000)]

/-- Whether the Unicode property White_Space holds of a character. -/
def isBlank (character : Char) : Bool :=
  blankRanges.any fun range => range.1 ≤ character.toNat && character.toNat ≤ range.2

/-- A text without the blank characters at its front. -/
def trimFront (characters : List Char) : List Char :=
  characters.dropWhile isBlank

/-- A text without the blank characters at its two ends. -/
def trim (characters : List Char) : List Char :=
  (trimFront (trimFront characters).reverse).reverse

end SelfUpdate.Text
