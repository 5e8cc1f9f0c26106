import SelfUpdate.Archive.Tar.Header

/-!
# Records about a member

The content of an extended header is a list of lines, each with its own length in
decimal, a space, a key, an equals sign and a value. An empty line ends the list.
-/

namespace SelfUpdate.Tar

structure Record where
  key : Bytes
  value : Bytes
  deriving DecidableEq, Repr

/-- Read a decimal number of 64 bits; a plus sign in front is allowed. -/
def decimalText (bytes : Bytes) : Option Nat := do
  let digits :=
    match bytes with
    | 0x2b :: digits => digits
    | digits => digits
  if digits.isEmpty then none
  let number ← digits.foldlM
    (fun number digit =>
      if 0x30 ≤ digit && digit ≤ 0x39 then some (10 * number + (digit.toNat - 0x30)) else none)
    0
  if number < UInt64.size then some number else none

/-- Read one line without its line feed. The length it gives counts the line feed. -/
def Record.ofLine (line : Bytes) : Option Record := do
  let lengthText := line.upTo 0x20
  if lengthText.length = line.length then none
  let length ← decimalText lengthText
  if length != line.length + 1 then none
  let body : Bytes := line.drop (lengthText.length + 1)
  let key := body.upTo 0x3d
  if key.length = body.length then none
  return ⟨key, body.drop (key.length + 1)⟩

/-- The lines of a list of records, malformed ones as `none`. -/
def Record.ofContent (content : Bytes) : List (Option Record) :=
  ((content.splitOn 0x0a).takeWhile (!·.isEmpty)).map Record.ofLine

/-- The path given by the first record that has one; malformed lines do not count. -/
def recordedPath (records : List (Option Record)) : Option Bytes :=
  (records.filterMap id).findSome? fun record =>
    if record.key == Bytes.ofString "path" then some record.value else none

/-- The size given by the first record that has one, unless a malformed line comes
before it. -/
def recordedSize : List (Option Record) → Option Nat
  | [] => none
  | none :: _ => none
  | some record :: rest =>
      if record.key == Bytes.ofString "size" then decimalText record.value
      else recordedSize rest

end SelfUpdate.Tar
