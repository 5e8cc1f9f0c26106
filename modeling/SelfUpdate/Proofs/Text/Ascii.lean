import SelfUpdate.Proofs.Text.Utf8
import SelfUpdate.Text.CodePage

/-!
# Texts of ASCII characters

A text of ASCII characters is spelled by one byte for each of them, in UTF-8 as well as in
code page 437.  So all ways of decoding its bytes lead back to it.
-/

namespace SelfUpdate

namespace Bytes

/-- The UTF-8 bytes of a text are those of its characters, one after the other. -/
theorem ofString_ofList (characters : List Char) :
    ofString (String.ofList characters) = characters.flatMap String.utf8EncodeChar := by
  rw [ofString_eq_data]
  simp [List.utf8Encode]

end Bytes

namespace Text

/-- All characters of a text are ASCII. -/
def IsAscii (characters : List Char) : Prop :=
  ∀ character ∈ characters, character.toNat < 128

/-- The byte of an ASCII character. -/
def asciiByte (character : Char) : UInt8 :=
  UInt8.ofNat character.toNat

section Character

variable {character : Char} (ascii : character.toNat < 128)

include ascii

theorem toNat_asciiByte : (asciiByte character).toNat = character.toNat := by
  rw [asciiByte, UInt8.toNat_ofNat']
  omega

theorem asciiByte_lt : asciiByte character < 0x80 := by
  rw [UInt8.lt_iff_toNat_lt, toNat_asciiByte ascii]
  exact ascii

theorem ofNat_asciiByte : Char.ofNat (asciiByte character).toNat = character := by
  rw [toNat_asciiByte ascii, Char.ofNat_toNat]

theorem utf8EncodeChar_of_ascii : String.utf8EncodeChar character = [asciiByte character] := by
  have small : character.val.toNat ≤ 127 := Nat.le_of_lt_succ ascii
  rw [String.utf8EncodeChar, if_pos small]
  rfl

theorem decodeStep_asciiByte (rest : Bytes) :
    decodeStep (asciiByte character) rest = (character, 0) := by
  have least := asciiByte_lt ascii
  have known : furtherBytes (asciiByte character) = some 0 := by
    rw [furtherBytes, if_pos least]
  have value : (asciiByte character).toNat % 128 = (asciiByte character).toNat := by
    rw [toNat_asciiByte ascii]
    omega
  simp [decodeStep, known, continuation, assemble, value, ofNat_asciiByte ascii]

end Character

section Spelling

variable {characters : List Char} (ascii : IsAscii characters)

include ascii

theorem ofString_of_isAscii :
    Bytes.ofString (String.ofList characters) = characters.map asciiByte := by
  rw [Bytes.ofString_ofList]
  induction characters with
  | nil => rfl
  | cons character characters ih =>
      have rest : IsAscii characters := fun other member =>
        ascii other (List.mem_cons_of_mem character member)
      rw [List.flatMap_cons, utf8EncodeChar_of_ascii (ascii character (by simp)), ih rest,
        List.map_cons, List.singleton_append]

theorem decodeUtf8?_of_isAscii :
    decodeUtf8? (characters.map asciiByte) = some (String.ofList characters) :=
  decodeUtf8?_eq_some_iff.mpr (ofString_of_isAscii ascii).symm

theorem decodeLossy_of_isAscii :
    decodeLossy (characters.map asciiByte) = String.ofList characters := by
  rw [decodeLossy]
  congr 1
  induction characters with
  | nil => rw [List.map_nil, decodeLossyChars]
  | cons character characters ih =>
      have rest : IsAscii characters := fun other member =>
        ascii other (List.mem_cons_of_mem character member)
      rw [List.map_cons, decodeLossyChars, decodeStep_asciiByte (ascii character (by simp))]
      dsimp only
      rw [List.drop_zero, ih rest]

theorem decodeCodePage_of_isAscii :
    decodeCodePage (characters.map asciiByte) = String.ofList characters := by
  have decoded : ∀ character ∈ characters, codePageChar (asciiByte character) = character := by
    intro character member
    rw [codePageChar, if_pos (asciiByte_lt (ascii character member)),
      ofNat_asciiByte (ascii character member)]
  rw [decodeCodePage, List.map_map]
  congr 1
  exact (List.map_congr_left decoded).trans (List.map_id _)

end Spelling

/-- The characters of a text can be taken from its bytes, if these are those of ASCII
characters. -/
theorem toList_of_bytes {text : String}
    (ascii : ∀ byte ∈ text.toByteArray.data.toList, byte.toNat < 128) :
    text.toList = text.toByteArray.data.toList.map fun byte => Char.ofNat byte.toNat := by
  have value : ∀ byte ∈ text.toByteArray.data.toList,
      (Char.ofNat byte.toNat).toNat = byte.toNat := by
    intro byte member
    rw [Char.ofNat, dif_pos (Or.inl (Nat.lt_trans (ascii byte member) (by decide)))]
    rfl
  have isAscii : IsAscii (text.toByteArray.data.toList.map fun byte => Char.ofNat byte.toNat) := by
    intro character member
    obtain ⟨byte, isByte, rfl⟩ := List.mem_map.mp member
    exact (value byte isByte).symm ▸ ascii byte isByte
  have same : Bytes.ofString text = Bytes.ofString
      (String.ofList (text.toByteArray.data.toList.map fun byte => Char.ofNat byte.toNat)) := by
    rw [ofString_of_isAscii isAscii, List.map_map, Bytes.ofString_eq_data]
    refine ((List.map_congr_left fun byte isByte => ?_).trans (List.map_id _)).symm
    rw [Function.comp_apply, asciiByte, value byte isByte, UInt8.ofNat_toNat]
    rfl
  have decoded := decodeUtf8?_eq_some_iff.mpr same
  rw [decodeUtf8?_ofString] at decoded
  exact (congrArg String.toList (Option.some.inj decoded)).trans String.toList_ofList

end Text

end SelfUpdate
