import Mathlib.Data.List.Basic
import FormatterModules.Bytes.Utf8

namespace FormatterModules.Bytes

/-- The bytes are those of the text in UTF-8, or of no text at all, and each of them is the code point
of one character. -/
def IsDecoded (bytes : ByteArray) (text : String) : Prop :=
  ofText text = bytes ∨
    (∀ other, ofText other ≠ bytes) ∧ text.toList.map Char.toNat = bytes.data.toList.map UInt8.toNat

variable {bytes : ByteArray} {text : String}

theorem decodeUtf8?_eq_some_iff : decodeUtf8? bytes = some text ↔ ofText text = bytes := by
  unfold decodeUtf8? ofText String.fromUTF8?
  constructor
  · intro h
    split at h
    · cases h
      rfl
    · cases h
  · rintro rfl
    exact dif_pos text.isValidUTF8

theorem codePoints_decodeLatin1 (bytes : ByteArray) :
    (decodeLatin1 bytes).toList.map Char.toNat = bytes.data.toList.map UInt8.toNat := by
  rw [decodeLatin1, String.toList_ofList, List.map_map]
  refine List.map_congr_left fun b _ => ?_
  have hlt := b.toNat_lt
  have hvalid : b.toNat.isValidChar := .inl (by omega)
  rw [Function.comp_apply, Char.ofNat, dif_pos hvalid]
  rfl

theorem isDecoded_iff : IsDecoded bytes text ↔ decodeUtf8OrLatin1 bytes = text := by
  unfold IsDecoded decodeUtf8OrLatin1
  cases hdecoded : decodeUtf8? bytes with
  | none =>
    have hnone : ∀ other, ofText other ≠ bytes := by
      intro other h
      rw [decodeUtf8?_eq_some_iff.mpr h] at hdecoded
      cases hdecoded
    have hinjective : Function.Injective (List.map Char.toNat) :=
      List.map_injective_iff.mpr fun _ _ h => Char.toNat_inj.mp h
    rw [or_iff_right (hnone text), and_iff_right hnone, ← codePoints_decodeLatin1,
      hinjective.eq_iff, String.toList_inj, Option.getD_none, eq_comm]
  | some decoded =>
    have hbytes := decodeUtf8?_eq_some_iff.mp hdecoded
    rw [or_iff_left fun h => h.1 decoded hbytes, Option.getD_some, ← decodeUtf8?_eq_some_iff,
      hdecoded, Option.some_inj]

end FormatterModules.Bytes
