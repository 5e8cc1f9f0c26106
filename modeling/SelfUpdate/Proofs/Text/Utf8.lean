import Mathlib.Data.List.Basic
import SelfUpdate.Text.Utf8

/-!
# Texts and their bytes

Decoding succeeds on the bytes of a text and on no others, and leads back to that text.
-/

namespace SelfUpdate

namespace Bytes

private theorem toList_loop (bytes : ByteArray) (index : Nat) (found : List UInt8) :
    ByteArray.toList.loop bytes index found = found.reverse ++ bytes.data.toList.drop index := by
  induction index, found using ByteArray.toList.loop.induct bytes with
  | case1 index found inside ih =>
      have within : index < bytes.data.toList.length := by simpa using inside
      have here : bytes.get! index = bytes.data.toList[index] := by
        simp [ByteArray.get!, getElem!_pos bytes.data index (by simpa using inside)]
      rw [ByteArray.toList.loop, if_pos inside, ih, List.reverse_cons, List.append_assoc,
        List.drop_eq_getElem_cons within, here, List.singleton_append]
  | case2 index found outside =>
      have beyond : bytes.data.toList.length ≤ index := by simpa using outside
      rw [ByteArray.toList.loop, if_neg outside, List.drop_of_length_le beyond, List.append_nil]

theorem ofString_eq_data (text : String) : ofString text = text.toByteArray.data.toList := by
  rw [ofString, String.toUTF8_eq_toByteArray, ByteArray.toList, toList_loop]
  rfl

end Bytes

theorem Text.decodeUtf8?_eq_some_iff {bytes : Bytes} {text : String} :
    decodeUtf8? bytes = some text ↔ bytes = Bytes.ofString text := by
  rw [decodeUtf8?, String.fromUTF8?, Bytes.ofString_eq_data]
  constructor
  · intro decoded
    split at decoded
    · obtain rfl := Option.some.inj decoded
      rfl
    · simp at decoded
  · rintro rfl
    rw [dif_pos (by simpa using text.isValidUTF8)]
    rfl

@[simp] theorem Text.decodeUtf8?_ofString (text : String) :
    decodeUtf8? (Bytes.ofString text) = some text :=
  decodeUtf8?_eq_some_iff.mpr rfl

theorem Text.decodeUtf8?_eq_none_iff {bytes : Bytes} :
    decodeUtf8? bytes = none ↔ ∀ text, bytes ≠ Bytes.ofString text := by
  simp only [Option.eq_none_iff_forall_ne_some, ne_eq, decodeUtf8?_eq_some_iff]

end SelfUpdate
