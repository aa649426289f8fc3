import Mathlib.Data.List.Forall2
import Mathlib.Data.Nat.Digits.Lemmas
import Mathlib.Tactic.Ring
import Conformance.Proofs.Text.Bytes
import Conformance.Text.Hex

/-!
# Hexadecimal digits

Text is read as the number that its digits stand for, and text with anything else in it is not read
(`value?_eq_some_iff`). The digits of a padded number read back as the number (`value?_padded`), each of them is
one byte of text, and among numbers of one width the texts are ordered as the numbers are (`bytes_padded_lt_iff`).
-/

namespace Conformance.Hex

variable {c : Char} {d m value n width : Nat} {text : List Char} {digits : List Nat}

/-! ### Digits -/

def lowerDigits : List Char := "0123456789abcdef".toList

def upperDigits : List Char := "0123456789ABCDEF".toList

/-- The character is the digit of the value, in either case. -/
def Digit (c : Char) (d : Nat) : Prop := lowerDigits[d]? = some c ∨ upperDigits[d]? = some c

instance (c : Char) (d : Nat) : Decidable (Digit c d) := inferInstanceAs (Decidable (_ ∨ _))

theorem Digit.lt (digit : Digit c d) : d < 16 := by
  rcases digit with lower | upper
  · exact (List.getElem?_eq_some_iff.mp lower).1
  · exact (List.getElem?_eq_some_iff.mp upper).1

/-- A digit is one byte long, and is no sign, no separator and no blank. -/
theorem Digit.plain (digit : Digit c d) : c.utf8Size = 1 ∧ c ≠ '+' ∧ c ≠ '-' ∧ c ≠ ':' ∧ c ≠ ' ' := by
  have digits : (lowerDigits ++ upperDigits).all
      (fun c => decide (c.utf8Size = 1 ∧ c ≠ '+' ∧ c ≠ '-' ∧ c ≠ ':' ∧ c ≠ ' ')) = true := by decide
  refine of_decide_eq_true (List.all_eq_true.mp digits c (List.mem_append.mpr ?_))
  rcases digit with lower | upper
  · exact .inl (List.mem_of_getElem? lower)
  · exact .inr (List.mem_of_getElem? upper)

theorem plain_of_spelled (spelled : List.Forall₂ Digit text digits) (member : c ∈ text) :
    c.utf8Size = 1 ∧ c ≠ '+' ∧ c ≠ '-' ∧ c ≠ ':' ∧ c ≠ ' ' := by
  induction spelled with
  | nil => cases member
  | cons digit _ ih =>
    rcases List.mem_cons.mp member with rfl | member
    · exact digit.plain
    · exact ih member

theorem lt_of_spelled (spelled : List.Forall₂ Digit text digits) (member : d ∈ digits) : d < 16 := by
  induction spelled with
  | nil => cases member
  | cons digit _ ih =>
    rcases List.mem_cons.mp member with rfl | member
    · exact digit.lt
    · exact ih member

/-- The count of the digits bounds the number that they stand for. -/
theorem ofDigits_lt (spelled : List.Forall₂ Digit text digits) :
    Nat.ofDigits 16 digits.reverse < 16 ^ text.length := by
  have small : ∀ d ∈ digits.reverse, d < 16 := fun d member => lt_of_spelled spelled (List.mem_reverse.mp member)
  have bound := Nat.ofDigits_lt_base_pow_length (by decide) small
  rwa [List.length_reverse, ← spelled.length_eq] at bound

theorem digitValue?_eq_some_iff : digitValue? c = some d ↔ Digit c d := by
  constructor
  · intro found
    have digits : ∀ n < 103, ∀ d < 16, digitValue? (Char.ofNat n) = some d → Digit (Char.ofNat n) d := by decide
    have small : c.toNat < 103 ∧ d < 16 := by
      simp only [digitValue?] at found
      grind
    rw [← Char.ofNat_toNat c] at found ⊢
    exact digits _ small.1 d small.2 found
  · intro digit
    have values : ∀ d < 16, digitValue? (lowerDigits[d]?.getD ' ') = some d ∧
        digitValue? (upperDigits[d]?.getD ' ') = some d := by decide
    have here := values d digit.lt
    rcases digit with lower | upper
    · rw [lower] at here
      exact here.1
    · rw [upper] at here
      exact here.2

/-- The digits that are read after a value stand for a number with the most significant of them first. -/
theorem valueFrom?_eq_some_iff :
    valueFrom? value text = some n ↔ ∃ digits, List.Forall₂ Digit text digits ∧
      n = value * 16 ^ digits.length + Nat.ofDigits 16 digits.reverse := by
  induction text generalizing value with
  | nil => simp [valueFrom?, eq_comm]
  | cons c text ih =>
    simp only [valueFrom?, Option.bind_eq_some_iff, digitValue?_eq_some_iff, ih, List.forall₂_cons_left_iff]
    constructor
    · rintro ⟨d, digit, digits, spelled, rfl⟩
      refine ⟨d :: digits, ⟨d, digits, digit, spelled, rfl⟩, ?_⟩
      rw [List.reverse_cons, Nat.ofDigits_append, Nat.ofDigits_singleton, List.length_reverse, List.length_cons]
      ring
    · rintro ⟨_, ⟨d, digits, digit, spelled, rfl⟩, rfl⟩
      refine ⟨d, digit, digits, spelled, ?_⟩
      rw [List.reverse_cons, Nat.ofDigits_append, Nat.ofDigits_singleton, List.length_reverse, List.length_cons]
      ring

theorem value?_eq_some_iff :
    value? text = some n ↔ text ≠ [] ∧ ∃ digits, List.Forall₂ Digit text digits ∧
      n = Nat.ofDigits 16 digits.reverse := by
  cases text with
  | nil => simp [value?]
  | cons c text =>
    refine valueFrom?_eq_some_iff.trans ?_
    simp

/-! ### Padded numbers -/

theorem digitValue?_digitChar (digit : d < 16) : digitValue? (digitChar d) = some d := by
  revert d
  decide

theorem valueFrom?_append (value : Nat) (text rest : List Char) :
    valueFrom? value (text ++ rest) = (valueFrom? value text).bind fun read => valueFrom? read rest := by
  induction text generalizing value with
  | nil => rfl
  | cons c text ih =>
    rw [List.cons_append, valueFrom?, valueFrom?, Option.bind_assoc]
    exact congrArg _ (funext fun d => ih _)

theorem valueFrom?_padded (value width n : Nat) :
    valueFrom? value (padded width n) = some (value * 16 ^ width + n % 16 ^ width) := by
  induction width generalizing n with
  | zero => simp [padded, valueFrom?, Nat.mod_one]
  | succ width ih =>
    rw [padded, valueFrom?_append, ih, Option.bind_some, valueFrom?,
      digitValue?_digitChar (Nat.mod_lt n (by decide)), Option.bind_some, valueFrom?, pow_succ,
      Nat.mul_comm (16 ^ width), Nat.mod_mul]
    congr 1
    ring

theorem length_padded (width n : Nat) : (padded width n).length = width := by
  induction width generalizing n with
  | zero => rfl
  | succ width ih => rw [padded, List.length_append, ih, List.length_singleton]

theorem value?_padded (width n : Nat) : value? (padded (width + 1) n) = some (n % 16 ^ (width + 1)) := by
  have whole := valueFrom?_padded 0 (width + 1) n
  cases digits : padded (width + 1) n with
  | nil => simp [padded] at digits
  | cons first rest =>
    rw [digits, Nat.zero_mul, Nat.zero_add] at whole
    exact whole

theorem mem_padded (member : c ∈ padded width n) : ∃ d < 16, c = digitChar d := by
  induction width generalizing n with
  | zero => cases member
  | succ width ih =>
    rw [padded, List.mem_append, List.mem_singleton] at member
    rcases member with early | last
    · exact ih early
    · exact ⟨_, Nat.mod_lt n (by decide), last⟩

/-- A digit is one byte long, and is neither the colon nor the plus sign of a UID. -/
theorem plain_of_mem_padded (member : c ∈ padded width n) : c.utf8Size = 1 ∧ c ≠ ':' ∧ c ≠ '+' := by
  have digits : ∀ d < 16, (digitChar d).utf8Size = 1 ∧ digitChar d ≠ ':' ∧ digitChar d ≠ '+' := by decide
  obtain ⟨d, digit, rfl⟩ := mem_padded member
  exact digits d digit

theorem mem_lowerDigits_iff : c ∈ lowerDigits ↔ ∃ d < 16, c = digitChar d := by
  have digits : ∀ d < 16, lowerDigits[d]? = some (digitChar d) := by decide
  rw [List.mem_iff_getElem?]
  constructor
  · rintro ⟨d, found⟩
    have small : d < 16 := (List.getElem?_eq_some_iff.mp found).1
    exact ⟨d, small, Option.some.inj (found.symm.trans (digits d small))⟩
  · rintro ⟨d, small, rfl⟩
    exact ⟨d, digits d small⟩

/-- Text of lower-case digits is a padded number. -/
theorem exists_padded (lower : ∀ c ∈ text, c ∈ lowerDigits) :
    ∃ n < 16 ^ text.length, padded text.length n = text := by
  induction text using List.reverseRecOn with
  | nil => exact ⟨0, by decide, rfl⟩
  | append_singleton text c ih =>
    obtain ⟨n, small, written⟩ := ih fun c member => lower c (List.mem_append_left _ member)
    obtain ⟨d, digit, rfl⟩ := mem_lowerDigits_iff.mp (lower c (List.mem_append_right _ List.mem_cons_self))
    refine ⟨16 * n + d, ?_, ?_⟩
    · rw [List.length_append, List.length_singleton, pow_succ]
      omega
    · rw [List.length_append, List.length_singleton, padded, show (16 * n + d) / 16 = n by omega,
        show (16 * n + d) % 16 = d by omega, written]

theorem padded_inj : padded width m = padded width n ↔ m % 16 ^ width = n % 16 ^ width := by
  induction width generalizing m n with
  | zero => simp [padded, Nat.mod_one]
  | succ width ih =>
    have digits : ∀ d < 16, ∀ e < 16, digitChar d = digitChar e ↔ d = e := by decide
    rw [padded, padded, List.append_singleton_inj, ih, digits _ (Nat.mod_lt m (by decide)) _ (Nat.mod_lt n (by decide)),
      pow_succ', Nat.mod_mul, Nat.mod_mul]
    omega

theorem length_bytes_padded (width n : Nat) : (Text.bytes (padded width n)).length = width := by
  rw [Text.length_bytes fun _ member => (plain_of_mem_padded member).1, length_padded]

/-- The bytes of numbers that are padded to one width are ordered as the numbers are. -/
theorem bytes_padded_lt_iff :
    Text.bytes (padded width m) < Text.bytes (padded width n) ↔ m % 16 ^ width < n % 16 ^ width := by
  induction width generalizing m n with
  | zero => simp [padded, Text.bytes, Nat.mod_one]
  | succ width ih =>
    have digits : ∀ d < 16, ∀ e < 16, Text.bytes [digitChar d] < Text.bytes [digitChar e] ↔ d < e := by decide
    have same : (Text.bytes (padded width (m / 16))).length = (Text.bytes (padded width (n / 16))).length := by
      rw [length_bytes_padded, length_bytes_padded]
    rw [padded, padded, Text.bytes_append, Text.bytes_append, Text.append_lt_append_iff same, ih, Text.bytes_inj,
      padded_inj, digits _ (Nat.mod_lt m (by decide)) _ (Nat.mod_lt n (by decide)), pow_succ', Nat.mod_mul, Nat.mod_mul]
    omega

end Conformance.Hex
