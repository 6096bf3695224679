import Mathlib.Data.String.Basic

/-!
# The order of encoded texts

Texts are compared character by character.  In the encoding of texts the character that comes
later has the greater byte where two characters first differ, so comparing bytes gives the
same order.
-/

namespace Pipewright

/-- The bytes of a text in UTF-8. -/
def encodedBytes (text : String) : List UInt8 :=
  text.toByteArray.data.toList

theorem encodedBytes_eq (text : String) :
    encodedBytes text = text.toList.flatMap String.utf8EncodeChar := by
  rw [encodedBytes, ← String.utf8Encode_toList, List.utf8Encode, List.data_toByteArray]

theorem toNat_lt_of_char (character : Char) : character.val.toNat < 1114112 := by
  rcases character.valid with low | high
  · exact Nat.lt_trans low (by decide)
  · exact high.2

/-- The later of two characters has the greater byte where their bytes first differ. -/
theorem utf8EncodeChar_append_lt {earlier later : Char} (before : earlier < later)
    (rest rest' : List UInt8) :
    String.utf8EncodeChar earlier ++ rest < String.utf8EncodeChar later ++ rest' := by
  have points : earlier.val.toNat < later.val.toNat := before
  have bound := toNat_lt_of_char later
  have toNat_ofNat : ∀ {byte : Nat}, byte < 256 → (UInt8.ofNat byte).toNat = byte := by
    intro byte fits
    rw [UInt8.toNat_ofNat', Nat.mod_eq_of_lt fits]
  -- each byte holds six more bits of the code point than the one behind it
  have sixBits : ∀ point : Nat,
      point / 4096 = point / 64 / 64 ∧ point / 262144 = point / 64 / 64 / 64 := by
    intro point
    omega
  unfold String.utf8EncodeChar
  generalize earlier.val.toNat = low at *
  generalize later.val.toNat = high at *
  simp only [sixBits]
  split_ifs
  all_goals try omega
  all_goals
    simp (disch := omega) only [List.cons_append, List.nil_append, List.cons_lt_cons_iff,
      UInt8.lt_iff_toNat_lt, ← UInt8.toNat_inj, toNat_ofNat]
    omega

theorem flatMap_utf8EncodeChar_lt {left right : List Char} (before : left < right) :
    left.flatMap String.utf8EncodeChar < right.flatMap String.utf8EncodeChar := by
  induction before with
  | @nil character rest =>
      obtain ⟨byte, bytes, encoded⟩ :=
        List.exists_cons_of_ne_nil (@String.utf8EncodeChar_ne_nil character)
      rw [List.flatMap_nil, List.flatMap_cons, encoded, List.cons_append]
      exact List.nil_lt_cons byte _
  | @cons character rest rest' _ inner =>
      rw [List.flatMap_cons, List.flatMap_cons]
      exact List.append_left_lt inner
  | rel before =>
      rw [List.flatMap_cons, List.flatMap_cons]
      exact utf8EncodeChar_append_lt before _ _

/-- Comparing the bytes of texts is comparing the texts. -/
theorem encodedBytes_lt_iff {left right : String} :
    encodedBytes left < encodedBytes right ↔ left < right := by
  constructor
  · intro before
    rcases lt_trichotomy left right with less | rfl | greater
    · exact less
    · exact absurd before (List.lt_irrefl _)
    · have behind := flatMap_utf8EncodeChar_lt (String.lt_iff_toList_lt.mp greater)
      rw [← encodedBytes_eq, ← encodedBytes_eq] at behind
      exact absurd before (List.lt_asymm behind)
  · intro before
    rw [encodedBytes_eq, encodedBytes_eq]
    exact flatMap_utf8EncodeChar_lt (String.lt_iff_toList_lt.mp before)

end Pipewright
