import Mathlib.Data.List.Lex
import Mathlib.Tactic.SplitIfs
import SqlBuilder.Text.Order

/-! # The order of bytes

Texts are put in the order of their code points (`Text.inOrder`).  Who compares texts byte by byte,
as they are encoded, finds the same order (`Text.lex_bytes`): of two characters the one with the
smaller code point has the smaller byte where their encodings first differ, and neither encoding is
the start of the other.
-/
namespace SqlBuilder
namespace Text

/-- The bytes of a text in UTF-8. -/
def bytes (s : String) : List UInt8 :=
  s.toUTF8.data.toList

theorem bytes_eq (s : String) : bytes s = s.toList.flatMap String.utf8EncodeChar := by
  conv => lhs; rw [← String.ofList_toList (s := s)]
  rw [bytes, String.toUTF8_eq_toByteArray, String.toByteArray_ofList, List.utf8Encode,
    List.data_toByteArray]

/-- One byte after another: the first that is smaller decides. -/
theorem lex_byte {a b : Nat} {as bs : List UInt8} (bound : a ≤ b ∧ b < 256)
    (h : a = b → List.Lex (· < ·) as bs) :
    List.Lex (· < ·) (UInt8.ofNat a :: as) (UInt8.ofNat b :: bs) := by
  obtain ⟨order, large⟩ := bound
  rcases Nat.lt_or_eq_of_le order with smaller | same
  · have small : a < UInt8.size := Nat.lt_of_le_of_lt order large
    exact .rel ((UInt8.ofNat_lt_iff_lt small large).mpr smaller)
  · rw [same]
    exact .cons (h same)

/-- Behind the encodings of two characters it does not matter what follows. -/
theorem lex_utf8EncodeChar {c d : Char} (smaller : c.toNat < d.toNat) (as bs : List UInt8) :
    List.Lex (· < ·) (String.utf8EncodeChar c ++ as) (String.utf8EncodeChar d ++ bs) := by
  have largest : d.toNat < 1114112 := by
    have valid : d.toNat < 55296 ∨ 57343 < d.toNat ∧ d.toNat < 1114112 := d.valid
    omega
  simp only [String.utf8EncodeChar, show c.val.toNat = c.toNat from rfl,
    show d.val.toNat = d.toNat from rfl]
  -- one case for the lengths of both encodings; equal bytes all the way are equal characters
  split_ifs <;> simp only [List.cons_append, List.nil_append] <;>
    repeat (refine lex_byte (by omega) fun same => ?_)
  all_goals omega

/-- **Texts in order have their bytes in order.** -/
theorem lex_bytes {s t : String} (order : inOrder s.toList t.toList = true) (other : s ≠ t) :
    List.Lex (· < ·) (bytes s) (bytes t) := by
  have differ : s.toList ≠ t.toList := fun same => other (String.toList_inj.mp same)
  rw [bytes_eq, bytes_eq]
  generalize s.toList = cs at order differ
  generalize t.toList = ds at order differ
  induction cs generalizing ds with
  | nil =>
    obtain _ | ⟨d, ds⟩ := ds
    · exact absurd rfl differ
    · have some : String.utf8EncodeChar d ≠ [] := String.utf8EncodeChar_ne_nil
      obtain ⟨byte, others, encoded⟩ := List.exists_cons_of_ne_nil some
      rw [List.flatMap_cons, encoded]
      exact .nil
  | cons c cs ih =>
    obtain _ | ⟨d, ds⟩ := ds
    · cases order
    · rw [List.flatMap_cons, List.flatMap_cons]
      rw [inOrder] at order
      by_cases same : c = d
      · subst same
        rw [if_pos rfl] at order
        have rest : cs ≠ ds := fun h => differ (by rw [h])
        exact (ih ds order rest).append_left ..
      · rw [if_neg same] at order
        exact lex_utf8EncodeChar (of_decide_eq_true order) _ _

end Text
end SqlBuilder
