import SelfUpdate.Bytes.Basic

/-!
# Decoding UTF-8

Strict decoding accepts valid UTF-8 only. Lossy decoding puts the replacement
character in the place of every longest beginning of a character that is not
continued, and of every byte that begins none.
-/

namespace SelfUpdate.Text

/-- The character that stands for undecodable bytes. -/
def replacement : Char := '\ufffd'

def decodeUtf8? (bytes : Bytes) : Option String :=
  String.fromUTF8? ⟨bytes.toArray⟩

def isContinuation (byte : UInt8) : Bool :=
  0x80 ≤ byte && byte ≤ 0xbf

/-- The bytes allowed second in a character of several bytes, by its first byte. -/
def secondBytes (first : UInt8) : UInt8 × UInt8 :=
  if first = 0xe0 then (0xa0, 0xbf)
  else if first = 0xed then (0x80, 0x9f)
  else if first = 0xf0 then (0x90, 0xbf)
  else if first = 0xf4 then (0x80, 0x8f)
  else (0x80, 0xbf)

/-- Whether a byte may stand second after a first byte. -/
def isSecond (first second : UInt8) : Bool :=
  (secondBytes first).1 ≤ second && second ≤ (secondBytes first).2

/-- How many bytes must follow the first byte of a character; some bytes begin none. -/
def furtherBytes (first : UInt8) : Option Nat :=
  if first < 0x80 then some 0
  else if first < 0xc2 then none
  else if first < 0xe0 then some 1
  else if first < 0xf0 then some 2
  else if first < 0xf5 then some 3
  else none

/-- The bytes that continue a character after its first byte, at most `count`. -/
def continuation (first : UInt8) : (count : Nat) → Bytes → Bytes
  | 0, _ => []
  | _, [] => []
  | count + 1, second :: rest =>
      if isSecond first second then second :: (rest.take count).takeWhile isContinuation
      else []

/-- The character with the given bytes. The first byte gives fewer bits the more bytes
follow it. -/
def assemble (first : UInt8) (further : Bytes) : Char :=
  let leading := if further.isEmpty then 128 else Nat.pow 2 (6 - further.length)
  Char.ofNat <|
    further.foldl (fun point byte => point * 64 + byte.toNat % 64) (first.toNat % leading)

/-- Decode one character, and tell how many bytes after the first it takes. -/
def decodeStep (first : UInt8) (rest : Bytes) : Char × Nat :=
  match furtherBytes first with
  | none => (replacement, 0)
  | some count =>
      let further := continuation first count rest
      (if further.length = count then assemble first further else replacement, further.length)

/-- Decode bytes to characters, replacing what is not UTF-8. -/
def decodeLossyChars (bytes : Bytes) : List Char :=
  match bytes with
  | [] => []
  | first :: rest =>
      let (character, further) := decodeStep first rest
      character :: decodeLossyChars (rest.drop further)
termination_by bytes.length
decreasing_by simp only [List.length_drop, List.length_cons]; omega

/-- Decode bytes, replacing what is not UTF-8. -/
def decodeLossy (bytes : Bytes) : String :=
  String.ofList (decodeLossyChars bytes)

end SelfUpdate.Text
