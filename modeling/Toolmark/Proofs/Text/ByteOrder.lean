import Mathlib.Data.List.Lex
import Toolmark.Proofs.Text.Utf8

/-!
# The order of texts

Texts are compared character by character. Their bytes are in the same order: the lead byte of a
character tells the length of its sequence, and a longer sequence has a greater lead byte.
-/

namespace Toolmark.Text.Utf8

/-- The bytes of a text come before those of another one in lexicographic order. -/
def Precedes (left right : String) : Prop := List.Lex (· < ·) (encode left) (encode right)

theorem utf8EncodeChar_ne_nil (c : Char) : String.utf8EncodeChar c ≠ [] := by
  unfold String.utf8EncodeChar
  simp only
  split_ifs <;> exact List.cons_ne_nil _ _

theorem ofNat_lt_ofNat {low high : Nat} (less : low < high) (byte : high < 0x100) :
    UInt8.ofNat low < UInt8.ofNat high := by
  rw [UInt8.lt_iff_toNat_lt, UInt8.toNat_ofNat_of_lt' byte,
    UInt8.toNat_ofNat_of_lt' (Nat.lt_trans less byte)]
  exact less

theorem lex_byte {low high : Nat} {left right : List UInt8} (notAbove : low ≤ high)
    (byte : high < 0x100) (rest : low = high → List.Lex (· < ·) left right) :
    List.Lex (· < ·) (UInt8.ofNat low :: left) (UInt8.ofNat high :: right) := by
  rcases Nat.lt_or_eq_of_le notAbove with less | same
  · exact .rel (ofNat_lt_ofNat less byte)
  · rw [same]
    exact .cons (rest same)

theorem lex_utf8EncodeChar {c d : Char} (less : c < d) (left right : List UInt8) :
    List.Lex (· < ·) (String.utf8EncodeChar c ++ left) (String.utf8EncodeChar d ++ right) := by
  have code_lt : c.val.toNat < d.val.toNat := UInt32.lt_iff_toNat_lt.mp less
  have small : d.val.toNat < 0x110000 := by
    have scalar : d.val.toNat < 0xD800 ∨ 0xDFFF < d.val.toNat ∧ d.val.toNat < 0x110000 := d.valid
    omega
  unfold String.utf8EncodeChar
  generalize c.val.toNat = low at code_lt
  generalize d.val.toNat = high at code_lt small
  simp only
  split_ifs
  -- Sequences of different lengths are told apart by their lead bytes.
  any_goals (refine .rel (ofNat_lt_ofNat ?_ ?_) <;> omega)
  · refine lex_byte (by omega) (by omega) fun lead => ?_
    exact .rel (ofNat_lt_ofNat (by omega) (by omega))
  · refine lex_byte (by omega) (by omega) fun lead => ?_
    refine lex_byte (by omega) (by omega) fun second => ?_
    exact .rel (ofNat_lt_ofNat (by omega) (by omega))
  · refine lex_byte (by omega) (by omega) fun lead => ?_
    refine lex_byte (by omega) (by omega) fun second => ?_
    refine lex_byte (by omega) (by omega) fun third => ?_
    exact .rel (ofNat_lt_ofNat (by omega) (by omega))

theorem precedes_of_lt {left right : String} (less : left < right) : Precedes left right := by
  have characters : List.Lex (· < ·) left.toList right.toList := String.lt_iff.mp less
  unfold Precedes
  rw [encode_eq_flatMap, encode_eq_flatMap]
  generalize left.toList = cs at characters
  generalize right.toList = ds at characters
  induction characters with
  | @nil d rest =>
      obtain ⟨byte, bytes, equality⟩ := List.exists_cons_of_ne_nil (utf8EncodeChar_ne_nil d)
      rw [List.flatMap_nil, List.flatMap_cons, equality]
      exact .nil
  | cons _ induction =>
      rw [List.flatMap_cons, List.flatMap_cons]
      exact induction.append_left _ _
  | rel less =>
      rw [List.flatMap_cons, List.flatMap_cons]
      exact lex_utf8EncodeChar less _ _

/-- The order of texts is that of their bytes. -/
theorem precedes_iff_lt (left right : String) : Precedes left right ↔ left < right := by
  refine ⟨fun precedes => ?_, precedes_of_lt⟩
  by_contra notBefore
  by_cases after : right < left
  · exact List.lex_asymm UInt8.lt_asymm precedes (precedes_of_lt after)
  · have same : left = right :=
      String.le_antisymm (String.not_lt.mp after) (String.not_lt.mp notBefore)
    rw [same] at precedes
    exact List.lex_irrefl (fun _ => UInt8.lt_irrefl _) _ precedes

end Toolmark.Text.Utf8
