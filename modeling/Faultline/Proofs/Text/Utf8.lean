import Mathlib.Data.String.Basic
import Faultline.Text.Utf8

namespace Faultline

theorem textBytes_ofList (characters : List Char) :
    textBytes (String.ofList characters) = characters.flatMap String.utf8EncodeChar := by
  rw [textBytes, String.toUTF8_eq_toByteArray, String.toByteArray_ofList, List.utf8Encode, List.data_toByteArray]

theorem textBytes_eq (s : String) : textBytes s = s.toList.flatMap String.utf8EncodeChar := by
  rw [← textBytes_ofList, String.ofList_toList]

theorem decodeUtf8_textBytes (s : String) : decodeUtf8 (textBytes s) = .ok s := by
  have valid : (⟨(textBytes s).toArray⟩ : ByteArray).IsValidUTF8 := s.isValidUTF8
  rw [decodeUtf8, String.fromUTF8?, dif_pos valid]
  rfl

theorem textBytes_inj {s t : String} : textBytes s = textBytes t ↔ s = t := by
  refine ⟨fun same => ?_, fun same => same ▸ rfl⟩
  have decoded := congrArg decodeUtf8 same
  rwa [decodeUtf8_textBytes, decodeUtf8_textBytes, Except.ok.injEq] at decoded

/-- A text that was decoded is encoded as the same bytes. -/
theorem textBytes_of_decodeUtf8 {bytes : Bytes} {s : String} (decoded : decodeUtf8 bytes = .ok s) :
    textBytes s = bytes := by
  unfold decodeUtf8 String.fromUTF8? at decoded
  split at decoded
  · rename_i text found
    split at found
    · cases found
      cases decoded
      rfl
    · cases found
  · cases decoded

/-- Where two characters differ, their encodings differ before either ends, so that what follows does not
matter. -/
theorem utf8EncodeChar_lt {c d : Char} (below : c < d) (front back : Bytes) :
    String.utf8EncodeChar c ++ front < String.utf8EncodeChar d ++ back := by
  have inOrder : c.val.toNat < d.val.toNat := below
  have bounded : d.val.toNat < 0x110000 := by
    have := d.valid
    unfold UInt32.isValidChar Nat.isValidChar at this
    omega
  simp only [String.utf8EncodeChar]
  generalize c.val.toNat = v at inOrder
  generalize d.val.toNat = w at inOrder bounded
  -- The digits in base 64 are compared from the last to the first.
  have last : v / 64 < w / 64 ∨ v / 64 = w / 64 ∧ v % 64 < w % 64 := by omega
  have third : v / 64 = w / 64 ∨ v / 4096 < w / 4096 ∨ v / 4096 = w / 4096 ∧ v / 64 % 64 < w / 64 % 64 := by omega
  have second : v / 4096 = w / 4096 ∨ v / 262144 < w / 262144 ∨
      v / 262144 = w / 262144 ∧ v / 4096 % 64 < w / 4096 % 64 := by omega
  split_ifs <;>
    simp only [List.cons_append, List.nil_append, List.cons_lt_cons_iff, UInt8.lt_iff_toNat_lt, ← UInt8.toNat_inj,
      UInt8.toNat_ofNat'] <;>
    simp (disch := omega) only [Nat.mod_eq_of_lt] <;>
    omega

/-- The order of the encodings is the order of the characters. -/
theorem flatMap_utf8EncodeChar_lt {front back : List Char} (below : front < back) :
    front.flatMap String.utf8EncodeChar < back.flatMap String.utf8EncodeChar := by
  rw [← List.lex_lt] at below
  induction below with
  | nil =>
    rename_i c rest
    have encoded : String.utf8EncodeChar c ≠ [] := by simp
    obtain ⟨byte, others, shape⟩ := List.exists_cons_of_ne_nil encoded
    rw [List.flatMap_cons, shape]
    exact List.nil_lt_cons _ _
  | cons _ ih =>
    rw [List.flatMap_cons, List.flatMap_cons]
    exact List.append_left_lt ih
  | rel before =>
    rw [List.flatMap_cons, List.flatMap_cons]
    exact utf8EncodeChar_lt before _ _

/-- The order of texts is the order of their bytes. -/
theorem textBytes_lt {s t : String} : textBytes s < textBytes t ↔ s < t := by
  rw [textBytes_eq, textBytes_eq, String.lt_iff]
  refine ⟨fun below => ?_, flatMap_utf8EncodeChar_lt⟩
  rcases lt_trichotomy s.toList t.toList with before | same | after
  · exact before
  · exact absurd (same ▸ below) (List.lt_irrefl _)
  · exact absurd (flatMap_utf8EncodeChar_lt after) (List.lt_asymm below)

theorem compare_lt_iff_textBytes {s t : String} : compare s t = .lt ↔ textBytes s < textBytes t := by
  rw [textBytes_lt]
  exact compareOfLessAndEq_eq_lt

end Faultline
