import SelfUpdate.Text.Quoted
import SelfUpdate.Text.Utf8

/-!
# Quoted byte strings

A byte string that should be a text but is not valid UTF-8 is shown between quotation
marks, with its undecodable bytes as two hexadecimal digits each. Both kinds of
quotation marks are escaped in it.
-/

namespace SelfUpdate.Text

/-- A byte as an escape with two upper-case hexadecimal digits. -/
def escapeByte (byte : UInt8) : List Char :=
  ['\\', 'x'] ++ byteDigits byte

/-- The escaped form of a character in a quoted byte string. -/
def escapeAnyMark (character : Char) : List Char :=
  if character = '"' then escape '"' character else escape '\'' character

/-- The escaped form of bytes. -/
def escapeBytes (bytes : Bytes) : List Char :=
  match bytes with
  | [] => []
  | first :: rest =>
      match furtherBytes first with
      | none => escapeByte first ++ escapeBytes rest
      | some count =>
          let further := continuation first count rest
          let shown :=
            if further.length = count then escapeAnyMark (assemble first further)
            else (first :: further).flatMap escapeByte
          shown ++ escapeBytes (rest.drop further.length)
termination_by bytes.length
decreasing_by
  all_goals simp only [List.length_drop, List.length_cons]
  all_goals omega

/-- A byte string in double quotation marks. -/
def quotedBytes (bytes : Bytes) : String :=
  String.ofList ('"' :: escapeBytes bytes ++ ['"'])

end SelfUpdate.Text
