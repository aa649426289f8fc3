import Mathlib.Tactic.Tauto

/-!
# The bytes of text

`bytes` is the UTF-8 form of text, by which texts are ordered. Texts that begin with the same number of bytes are
ordered by these bytes, and by what follows only if these are the same (`append_lt_append_iff`).
-/

namespace Conformance.Text

variable {text text' : List Char}

/-- The bytes of the text in UTF-8. -/
def bytes (text : List Char) : List UInt8 := text.flatMap String.utf8EncodeChar

theorem toByteArray_ofList (text : List Char) : (String.ofList text).toByteArray.data.toList = bytes text := by
  rw [String.toByteArray_ofList, List.utf8Encode, List.data_toByteArray]
  rfl

theorem bytes_append (text rest : List Char) : bytes (text ++ rest) = bytes text ++ bytes rest := List.flatMap_append

theorem bytes_inj : bytes text = bytes text' ↔ text = text' := by
  constructor
  · intro same
    have encoded : text.utf8Encode = text'.utf8Encode := congrArg List.toByteArray same
    rw [← String.toByteArray_ofList, ← String.toByteArray_ofList, String.toByteArray_inj] at encoded
    exact String.ofList_injective encoded
  · rintro rfl
    rfl

theorem length_bytes (plain : ∀ c ∈ text, c.utf8Size = 1) : (bytes text).length = text.length := by
  have sizes : text.map (fun c => (String.utf8EncodeChar c).length) = List.replicate text.length 1 :=
    List.map_eq_replicate_iff.mpr fun c member => (String.length_utf8EncodeChar c).trans (plain c member)
  rw [bytes, List.length_flatMap, sizes, List.sum_replicate_nat, Nat.mul_one]

theorem append_lt_append_iff {α : Type} [LT α] {front front' back back' : List α}
    (same : front.length = front'.length) :
    front ++ back < front' ++ back' ↔ front < front' ∨ front = front' ∧ back < back' := by
  induction front generalizing front' with
  | nil => simp [List.eq_nil_of_length_eq_zero same.symm]
  | cons a front ih =>
    cases front' with
    | nil => cases same
    | cons a' front' =>
      rw [List.cons_append, List.cons_append, List.cons_lt_cons_iff, List.cons_lt_cons_iff, ih (Nat.succ.inj same),
        List.cons.injEq]
      tauto

end Conformance.Text
