import SelfUpdate.Archive.Format
import SelfUpdate.Archive.Gzip
import SelfUpdate.Proofs.Archive.Deflate.Continuation
import SelfUpdate.Proofs.Bytes.Field

/-!
# How content is put into a gzip member

A member is a header with any of the fields that it may have, some encoding of the content,
and a trailer.  Reading it gives the content, whole and verified, whatever the fields say,
however the content was encoded, and whatever follows the member.
-/

namespace SelfUpdate

/-- Some data is an encoding of some content, complete and with nothing behind it. -/
def Deflate.Encodes (data content : Bytes) : Prop :=
  inflate data = (content, .finished [])

namespace Gzip

/-- What a header can say besides that it is one, such as when, how and where the member was
made. -/
structure Heading where
  isText : Bool
  details : Bytes
  extra : Option Bytes
  name : Option Bytes
  comment : Option Bytes
  isChecked : Bool
  length_details : details.length = 6
  extra_length : ∀ field ∈ extra, field.length < 0x10000
  name_plain : ∀ text ∈ name, 0 ∉ text ∧ text.length ≤ maxText
  comment_plain : ∀ text ∈ comment, 0 ∉ text ∧ text.length ≤ maxText

def flagBit (isSet : Bool) (mask : UInt8) : UInt8 :=
  if isSet then mask else 0

def extraBytes : Option Bytes → Bytes
  | some field => Bytes.ofNumber 2 field.length ++ field
  | none => []

def textBytes : Option Bytes → Bytes
  | some text => text ++ [0]
  | none => []

namespace Heading

variable (heading : Heading)

def flags : UInt8 :=
  flagBit heading.isText 0x01 ||| flagBit heading.isChecked 0x02 |||
    flagBit heading.extra.isSome 0x04 ||| flagBit heading.name.isSome 0x08 |||
    flagBit heading.comment.isSome 0x10

/-- The header in front of its checksum, if it has one. -/
def fields : Bytes :=
  [0x1f, 0x8b, 0x08, heading.flags] ++ heading.details ++
    (extraBytes heading.extra ++ (textBytes heading.name ++ textBytes heading.comment))

def bytes : Bytes :=
  heading.fields ++
    if heading.isChecked then
      Bytes.ofNumber 2 ((Checksum.crc32 heading.fields).toNat % 0x10000)
    else []

end Heading

/-- The checksum and the length of a content. -/
def trailer (content : Bytes) : Bytes :=
  Bytes.ofNumber 4 (Checksum.crc32 content).toNat ++
    Bytes.ofNumber 4 (content.length % UInt32.size)

/-- A member that holds some content in an encoding, with something behind it. -/
def file (heading : Heading) (data content behind : Bytes) : Bytes :=
  heading.bytes ++ (data ++ (trailer content ++ behind))

theorem flags_ofByte (heading : Heading) :
    Flags.ofByte heading.flags =
      ⟨heading.isChecked, heading.extra.isSome, heading.name.isSome, heading.comment.isSome,
        false⟩ := by
  unfold Heading.flags
  cases heading.isText <;> cases heading.isChecked <;> cases heading.extra.isSome <;>
    cases heading.name.isSome <;> cases heading.comment.isSome <;> rfl

theorem extraFieldSize_extraBytes {extra : Option Bytes}
    (short : ∀ field ∈ extra, field.length < 0x10000) (rest : Bytes) :
    extraFieldSize extra.isSome (extraBytes extra ++ rest) = some (extraBytes extra).length := by
  cases extra with
  | none => rfl
  | some field =>
      have length : Bytes.number? (Bytes.ofNumber 2 field.length ++ (field ++ rest)) 0 2 =
          some field.length :=
        Bytes.number?_of_drop List.drop_zero (short field rfl)
      simp [extraFieldSize, extraBytes, length]

theorem textSize_textBytes {text : Option Bytes}
    (plain : ∀ text' ∈ text, 0 ∉ text' ∧ text'.length ≤ maxText) (rest : Bytes) :
    textSize text.isSome (textBytes text ++ rest) = some (textBytes text).length := by
  cases text with
  | none => rfl
  | some text =>
      obtain ⟨absent, short⟩ := plain text rfl
      have upTo : Bytes.upTo 0 (text ++ 0 :: rest) = text := by
        rw [Bytes.upTo_append absent]
        simp [Bytes.upTo]
      simp [textSize, textBytes, upTo, short]

theorem trailerMatches_trailer (content behind : Bytes) :
    trailerMatches content (trailer content ++ behind) = true := by
  have checksum : Bytes.number? (trailer content ++ behind) 0 4 =
      some (Checksum.crc32 content).toNat :=
    Bytes.number?_of_drop (by rw [List.drop_zero, trailer, List.append_assoc])
      (Checksum.crc32 content).toNat_lt
  have atLength : (trailer content ++ behind).drop 4 =
      Bytes.ofNumber 4 (content.length % UInt32.size) ++ behind := by
    rw [trailer, List.append_assoc]
    rfl
  have length : Bytes.number? (trailer content ++ behind) 4 4 =
      some (content.length % UInt32.size) :=
    Bytes.number?_of_drop atLength (Nat.mod_lt _ (by decide))
  simp [trailerMatches, checksum, length]

theorem headerSize_file (heading : Heading) (rest : Bytes) :
    headerSize (heading.bytes ++ rest) = some heading.bytes.length := by
  let check : Bytes := if heading.isChecked then
    Bytes.ofNumber 2 ((Checksum.crc32 heading.fields).toNat % 0x10000) else []
  have parts : heading.bytes ++ rest = heading.fields ++ (check ++ rest) := by
    rw [Heading.bytes, List.append_assoc]
  have start : (heading.bytes ++ rest).drop 0 =
      ([0x1f, 0x8b, 0x08, heading.flags] ++ heading.details) ++
        (extraBytes heading.extra ++ (textBytes heading.name ++ (textBytes heading.comment ++
          (check ++ rest)))) := by
    rw [List.drop_zero, parts, Heading.fields]
    simp only [List.append_assoc]
  have whole : ([0x1f, 0x8b, 0x08, heading.flags] ++ heading.details).length = 10 := by
    simp [heading.length_details]
  -- Each part stands behind the one before it, whether or not the flags say it is there.
  have fixed := Bytes.slice?_of_drop start whole
  have atExtra := Bytes.drop_add_of_drop start whole
  have atName := Bytes.drop_add_of_drop atExtra rfl
  have atComment := Bytes.drop_add_of_drop atName rfl
  have atCheck := Bytes.drop_add_of_drop atComment rfl
  have signature : ([0x1f, 0x8b, 0x08, heading.flags] ++ heading.details).take 3 =
      [0x1f, 0x8b, 0x08] := rfl
  have flags : ([0x1f, 0x8b, 0x08, heading.flags] ++ heading.details).getD 3 0 =
      heading.flags := rfl
  have size : 0 + 10 + (extraBytes heading.extra).length + (textBytes heading.name).length +
      (textBytes heading.comment).length = heading.fields.length := by
    simp only [Heading.fields, List.length_append, whole]
    omega
  have front : (heading.bytes ++ rest).take heading.fields.length = heading.fields := by
    rw [parts, List.take_left]
  rw [size] at atCheck
  rw [Nat.zero_add] at atExtra atName atComment size
  have total : heading.bytes.length = heading.fields.length + check.length := by
    rw [Heading.bytes, List.length_append]
  simp only [headerSize, fixed, signature, flags, flags_ofByte, atExtra, atName, atComment,
    extraFieldSize_extraBytes heading.extra_length, textSize_textBytes heading.name_plain,
    textSize_textBytes heading.comment_plain, size, front, total, Option.bind_eq_bind,
    Option.bind_some, bne_self_eq_false, Bool.false_eq_true, if_false]
  cases isChecked : heading.isChecked with
  | false => simp [check, isChecked]
  | true =>
      have stored : (heading.bytes ++ rest).number? heading.fields.length 2 =
          some ((Checksum.crc32 heading.fields).toNat % 0x10000) :=
        Bytes.number?_of_drop (by simpa [check, isChecked] using atCheck)
          (Nat.mod_lt _ (by decide))
      simp [stored, check, isChecked]

/-- Reading a member gives the content that was put into it. -/
theorem content_file (heading : Heading) {data content : Bytes}
    (encoded : Deflate.Encodes data content) (behind : Bytes) :
    Gzip.content (file heading data content behind) = .ofBytes content := by
  have inflated := Deflate.inflate_append encoded (trailer content ++ behind)
  rw [Gzip.content, file, headerSize_file]
  dsimp only
  rw [List.drop_left, inflated]
  dsimp only
  rw [List.nil_append, trailerMatches_trailer, Stream.ofBytes]

theorem sniff_file (heading : Heading) (data content behind : Bytes) :
    ArchiveFormat.sniff (file heading data content behind) = .gzipTar :=
  rfl

/-- A file begins with a gzip member that has a valid header, behind which the data decodes to
some content.  The checksum and the length behind that data may be wrong. -/
def Holds (file content : Bytes) : Prop :=
  ∃ size rest, headerSize file = some size ∧
    Deflate.inflate (file.drop size) = (content, .finished rest)

namespace Holds

variable {file content : Bytes}

/-- Anything may follow the compressed data. -/
theorem of_encodes (heading : Heading) {data : Bytes} (encoded : Deflate.Encodes data content)
    (behind : Bytes) : Holds (heading.bytes ++ (data ++ behind)) content := by
  refine ⟨heading.bytes.length, behind, headerSize_file heading _, ?_⟩
  rw [List.drop_left]
  exact Deflate.inflate_append encoded behind

theorem bytes_content (holds : Holds file content) : (Gzip.content file).bytes = content := by
  obtain ⟨size, rest, header, decoded⟩ := holds
  rw [Gzip.content, header]
  dsimp only
  rw [decoded]

theorem sniff (holds : Holds file content) : ArchiveFormat.sniff file = .gzipTar := by
  obtain ⟨size, rest, header, -⟩ := holds
  obtain ⟨fixed, isFixed, header⟩ := Option.bind_eq_some_iff.mp header
  dsimp only at header
  split at header
  · simp at header
  next signature =>
    have first : fixed.take 3 = [0x1f, 0x8b, 0x08] := by simpa using signature
    simp only [Bytes.slice?, List.drop_zero, Option.ite_none_right_eq_some,
      Option.some.injEq] at isFixed
    obtain ⟨-, rfl⟩ := isFixed
    rw [List.take_take] at first
    have parts : file = [0x1f, 0x8b, 0x08] ++ file.drop 3 := by
      rw [← first]
      exact (List.take_append_drop 3 file).symm
    rw [parts]
    rfl

end Holds

end Gzip

end SelfUpdate
