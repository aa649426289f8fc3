import Conformance.Proofs.Text.Hex
import Conformance.Uid

/-!
# The text of a UID

Text is read as a UID if it has two parts with a colon between them that are numbers of the right size; `Reads`
is that grammar, and `ofText_reads` says that nothing else is accepted, and which error stands for what. A UID is
written as the one text of four and eight lower-case digits that reads back as it, and the bytes of these texts are
ordered as the UIDs are (`display_order`).
-/

namespace Conformance.Uid

/-! ### The two parts -/

section Parts

variable {text rest : List Char}

theorem splitColon?_append (plain : ∀ c ∈ text, c ≠ ':') :
    splitColon? (text ++ ':' :: rest) = some (text, rest) := by
  induction text with
  | nil => rfl
  | cons c text ih =>
    obtain ⟨here, further⟩ := List.forall_mem_cons.mp plain
    rw [List.cons_append, splitColon?, ih further]
    · rfl
    · rintro rfl
      exact here rfl

theorem splitColon?_eq_none (plain : ∀ c ∈ text, c ≠ ':') : splitColon? text = none := by
  induction text with
  | nil => rfl
  | cons c text ih =>
    obtain ⟨here, further⟩ := List.forall_mem_cons.mp plain
    rw [splitColon?, ih further]
    · rfl
    · rintro rfl
      exact here rfl

theorem utf8Length_eq (text : List Char) : utf8Length text = (Text.bytes text).length := by
  have counted : ∀ (text : List Char) (size : Nat),
      text.foldl (fun size c => size + c.utf8Size) size = size + (Text.bytes text).length := by
    intro text
    induction text with
    | nil => intro size; rfl
    | cons c text ih =>
      intro size
      rw [List.foldl_cons, ih, ← String.length_utf8EncodeChar, Nat.add_assoc, ← List.length_append]
      rfl
  rw [utf8Length, counted text 0, Nat.zero_add]

theorem utf8Length_of_plain (plain : ∀ c ∈ text, c.utf8Size = 1) : utf8Length text = text.length := by
  rw [utf8Length_eq, Text.length_bytes plain]

theorem utf8Length_toList (text : String) : utf8Length text.toList = text.utf8ByteSize := by
  rw [utf8Length_eq, ← Text.toByteArray_ofList, String.ofList_toList, Array.length_toList]
  rfl

end Parts

/-- The text is the two parts with a colon between them, which is the first one in the text. -/
structure Parts (text manufacturer device : String) : Prop where
  joined : text = manufacturer ++ ":" ++ device
  first : ':' ∉ manufacturer.toList

/-- Each part has at least one byte, and no more than it has room for. -/
structure Fits (manufacturer device : String) : Prop where
  manufacturer : 1 ≤ manufacturer.utf8ByteSize ∧ manufacturer.utf8ByteSize ≤ 4
  device : 1 ≤ device.utf8ByteSize ∧ device.utf8ByteSize ≤ 8

theorem exists_parts {text : String} (colon : ':' ∈ text.toList) : ∃ m d, Parts text m d := by
  obtain ⟨front, back, same, plain⟩ := List.eq_append_cons_of_mem colon
  refine ⟨String.ofList front, String.ofList back, ?_, by rwa [String.toList_ofList]⟩
  rw [← String.toList_inj, same]
  simp

theorem Parts.splitColon?_eq {text m d : String} (parts : Parts text m d) :
    splitColon? text.toList = some (m.toList, d.toList) := by
  have spelled : text.toList = m.toList ++ ':' :: d.toList := by
    rw [parts.joined]
    simp
  rw [spelled, splitColon?_append fun c member same => parts.first (same ▸ member)]

theorem fits_iff {m d : String} :
    (decide (1 ≤ utf8Length m.toList) && decide (utf8Length m.toList ≤ 4) &&
      (decide (1 ≤ utf8Length d.toList) && decide (utf8Length d.toList ≤ 8))) = true ↔ Fits m d := by
  simp only [utf8Length_toList, Bool.and_eq_true, decide_eq_true_eq]
  exact ⟨fun ⟨m, d⟩ => ⟨m, d⟩, fun ⟨m, d⟩ => ⟨m, d⟩⟩

/-! ### Numbers -/

/-- The part stands for the number in base sixteen: digits of either case, after at most one plus sign. -/
inductive Number : List Char → Nat → Prop where
  | plain {digits : List Char} {values : List Nat} : digits ≠ [] → List.Forall₂ Hex.Digit digits values →
      Number digits (Nat.ofDigits 16 values.reverse)
  | signed {digits : List Char} {values : List Nat} : digits ≠ [] → List.Forall₂ Hex.Digit digits values →
      Number ('+' :: digits) (Nat.ofDigits 16 values.reverse)

section Numbers

variable {part : List Char} {n : Nat}

theorem partValue?_of_plain (plain : ∀ c ∈ part, c ≠ '+') : partValue? part = Hex.value? part := by
  unfold partValue?
  split
  · exact absurd rfl (plain _ List.mem_cons_self)
  · rfl

theorem partValue?_eq_some_iff : partValue? part = some n ↔ Number part n := by
  constructor
  · intro read
    unfold partValue? at read
    split at read
    · obtain ⟨present, digits, spelled, rfl⟩ := Hex.value?_eq_some_iff.mp read
      exact .signed present spelled
    · obtain ⟨present, digits, spelled, rfl⟩ := Hex.value?_eq_some_iff.mp read
      exact .plain present spelled
  · rintro (⟨present, spelled⟩ | ⟨present, spelled⟩)
    · rw [partValue?_of_plain fun c member => (Hex.plain_of_spelled spelled member).2.1]
      exact Hex.value?_eq_some_iff.mpr ⟨present, _, spelled, rfl⟩
    · exact Hex.value?_eq_some_iff.mpr ⟨present, _, spelled, rfl⟩

/-- A part that is a number has a digit, and but for a plus sign in front of it nothing else than digits. -/
theorem Number.plain_of_mem (number : Number part n) :
    part ≠ [] ∧ part ≠ ['+'] ∧ ∀ c ∈ part, c.utf8Size = 1 ∧ c ≠ '-' ∧ c ≠ ':' ∧ c ≠ ' ' := by
  cases number with
  | plain present spelled =>
    refine ⟨present, ?_, fun c member => ?_⟩
    · rintro rfl
      exact (Hex.plain_of_spelled spelled List.mem_cons_self).2.1 rfl
    · obtain ⟨size, -, rest⟩ := Hex.plain_of_spelled spelled member
      exact ⟨size, rest⟩
  | signed present spelled =>
    refine ⟨nofun, fun alone => present (List.cons.inj alone).2, List.forall_mem_cons.mpr ⟨by decide, ?_⟩⟩
    intro c member
    obtain ⟨size, -, rest⟩ := Hex.plain_of_spelled spelled member
    exact ⟨size, rest⟩

/-- A sign only takes room, so the bytes of a part bound its number. -/
theorem Number.lt (number : Number part n) : n < 16 ^ (Text.bytes part).length := by
  rw [Text.length_bytes fun c member => (number.plain_of_mem.2.2 c member).1]
  cases number with
  | plain _ spelled => exact Hex.ofDigits_lt spelled
  | signed _ spelled => exact (Hex.ofDigits_lt spelled).trans_le (Nat.pow_le_pow_right (by decide) (Nat.le_succ _))

theorem Fits.lt {m d : String} {a b : Nat} (fits : Fits m d) (first : Number m.toList a) (second : Number d.toList b) :
    a < 2 ^ 16 ∧ b < 2 ^ 32 := by
  have bytes (text : String) : (Text.bytes text.toList).length = text.utf8ByteSize := by
    rw [← utf8Length_eq, utf8Length_toList]
  constructor
  · exact (bytes m ▸ first.lt).trans_le (Nat.pow_le_pow_right (by decide) fits.manufacturer.2)
  · exact (bytes d ▸ second.lt).trans_le (Nat.pow_le_pow_right (by decide) fits.device.2)

end Numbers

/-! ### Reading -/

/-- What becomes of text that is read as a UID. -/
inductive Reads (text : String) : Except UidError Uid → Prop where
  | noColon : ':' ∉ text.toList → Reads text (.error (.malformed text))
  | unfit {m d : String} : Parts text m d → ¬ Fits m d → Reads text (.error (.malformed text))
  | noNumber {m d : String} : Parts text m d → Fits m d → (∀ a b, ¬ (Number m.toList a ∧ Number d.toList b)) →
      Reads text (.error (.invalidHex text))
  | uid {m d : String} {uid : Uid} : Parts text m d → Fits m d → Number m.toList uid.manufacturer.toNat →
      Number d.toList uid.device.toNat → Reads text (.ok uid)

section Reading

variable {text m d : String}

theorem ofText_of_noColon (plain : ':' ∉ text.toList) : ofText text = .error (.malformed text) := by
  unfold ofText
  rw [splitColon?_eq_none fun c member same => plain (same ▸ member)]

theorem ofText_of_unfit (parts : Parts text m d) (unfit : ¬ Fits m d) : ofText text = .error (.malformed text) := by
  unfold ofText
  rw [parts.splitColon?_eq]
  exact if_neg (mt fits_iff.mp unfit)

theorem ofText_of_fits (parts : Parts text m d) (fits : Fits m d) :
    ofText text =
      match partValue? m.toList, partValue? d.toList with
      | some a, some b => .ok ⟨.ofNat a, .ofNat b⟩
      | _, _ => .error (.invalidHex text) := by
  unfold ofText
  rw [parts.splitColon?_eq]
  exact if_pos (fits_iff.mpr fits)

theorem Reads.ofText_eq {result : Except UidError Uid} (reads : Reads text result) : ofText text = result := by
  cases reads with
  | noColon plain => exact ofText_of_noColon plain
  | unfit parts unfit => exact ofText_of_unfit parts unfit
  | @noNumber m d parts fits missing =>
    rw [ofText_of_fits parts fits]
    cases first : partValue? m.toList with
    | none => rfl
    | some a =>
      cases second : partValue? d.toList with
      | none => rfl
      | some b => exact absurd ⟨partValue?_eq_some_iff.mp first, partValue?_eq_some_iff.mp second⟩ (missing a b)
  | uid parts fits first second =>
    rw [ofText_of_fits parts fits, partValue?_eq_some_iff.mpr first, partValue?_eq_some_iff.mpr second]
    simp

theorem Parts.reads {a b : Nat} (parts : Parts text m d) (fits : Fits m d) (first : Number m.toList a)
    (second : Number d.toList b) : Reads text (.ok ⟨.ofNat a, .ofNat b⟩) := by
  obtain ⟨small, small'⟩ := fits.lt first second
  refine .uid parts fits ?_ ?_
  · rwa [UInt16.toNat_ofNat_of_lt' small]
  · rwa [UInt32.toNat_ofNat_of_lt' small']

theorem exists_reads (text : String) : ∃ result, Reads text result := by
  by_cases colon : ':' ∈ text.toList
  · obtain ⟨m, d, parts⟩ := exists_parts colon
    by_cases fits : Fits m d
    · by_cases numbers : ∃ a b, Number m.toList a ∧ Number d.toList b
      · obtain ⟨a, b, first, second⟩ := numbers
        exact ⟨_, parts.reads fits first second⟩
      · exact ⟨_, .noNumber parts fits fun a b both => numbers ⟨a, b, both⟩⟩
    · exact ⟨_, .unfit parts fits⟩
  · exact ⟨_, .noColon colon⟩

/--
Text without a colon is malformed, and so is text in which the part before or after the first one has no byte or
too many. Otherwise both parts have to be numbers, which always have room in the UID. A sign alone is no number,
nor is a part with a minus sign, another colon, a blank or a character beyond ASCII.
-/
theorem ofText_reads (text : String) :
    (∀ result, ofText text = result ↔ Reads text result) ∧
      (∀ m d a b, Parts text m d → Fits m d → Number m.toList a → Number d.toList b →
        a < 2 ^ 16 ∧ b < 2 ^ 32 ∧ ofText text = .ok ⟨.ofNat a, .ofNat b⟩) ∧
      ∀ part n, Number part n →
        part ≠ [] ∧ part ≠ ['+'] ∧ ∀ c ∈ part, c.utf8Size = 1 ∧ c ≠ '-' ∧ c ≠ ':' ∧ c ≠ ' ' := by
  refine ⟨fun result => ⟨?_, Reads.ofText_eq⟩, ?_, fun part n number => number.plain_of_mem⟩
  · rintro rfl
    obtain ⟨result, reads⟩ := exists_reads text
    rwa [reads.ofText_eq]
  · intro m d a b parts fits first second
    obtain ⟨small, small'⟩ := fits.lt first second
    exact ⟨small, small', (parts.reads fits first second).ofText_eq⟩

/-- A plus sign counts among the bytes of its part, and the case of a digit does not matter. -/
theorem ofText_reads_signed :
    Parts "+aB:0" "+aB" "0" ∧ Fits "+aB" "0" ∧ Number "+aB".toList 0xab ∧ Number "0".toList 0 ∧
      ofText "+aB:0" = .ok ⟨0xab, 0⟩ := by
  have parts : Parts "+aB:0" "+aB" "0" := ⟨rfl, by decide⟩
  have fits : Fits "+aB" "0" := ⟨by decide, by decide⟩
  have first : Number "+aB".toList 0xab :=
    @Number.signed ['a', 'B'] [10, 11] nofun (.cons (by decide) (.cons (by decide) .nil))
  have second : Number "0".toList 0 := @Number.plain ['0'] [0] nofun (.cons (by decide) .nil)
  exact ⟨parts, fits, first, second, ((ofText_reads _).2.1 _ _ _ _ parts fits first second).2.2⟩

end Reading

/-! ### Writing -/

section Writing

variable {text : String}

theorem utf8Length_padded (width n : Nat) : utf8Length (Hex.padded width n) = width := by
  rw [utf8Length_of_plain fun _ member => (Hex.plain_of_mem_padded member).1, Hex.length_padded]

theorem partValue?_padded (width n : Nat) :
    partValue? (Hex.padded (width + 1) n) = some (n % 16 ^ (width + 1)) := by
  rw [partValue?_of_plain fun _ member => (Hex.plain_of_mem_padded member).2.2, Hex.value?_padded]

theorem ofText_display (uid : Uid) : ofText uid.display = .ok uid := by
  have split : splitColon? uid.display.toList =
      some (Hex.padded 4 uid.manufacturer.toNat, Hex.padded 8 uid.device.toNat) := by
    rw [display, String.toList_ofList]
    exact splitColon?_append fun _ member => (Hex.plain_of_mem_padded member).2.1
  unfold ofText
  rw [split]
  simp [utf8Length_padded, partValue?_padded]

/-- Four lower-case digits, a colon and eight lower-case digits. -/
def Canonical (text : String) : Prop :=
  ∃ manufacturer device : List Char, text.toList = manufacturer ++ ':' :: device ∧
    manufacturer.length = 4 ∧ device.length = 8 ∧ ∀ c ∈ manufacturer ++ device, c ∈ Hex.lowerDigits

theorem canonical_display (uid : Uid) : Canonical uid.display := by
  refine ⟨_, _, String.toList_ofList, Hex.length_padded 4 _, Hex.length_padded 8 _, fun c member => ?_⟩
  rcases List.mem_append.mp member with member | member
  · exact Hex.mem_lowerDigits_iff.mpr (Hex.mem_padded member)
  · exact Hex.mem_lowerDigits_iff.mpr (Hex.mem_padded member)

theorem Canonical.exists_display (canonical : Canonical text) : ∃ uid : Uid, uid.display = text := by
  obtain ⟨manufacturer, device, same, four, eight, lower⟩ := canonical
  obtain ⟨a, small, first⟩ := Hex.exists_padded fun c member => lower c (List.mem_append_left _ member)
  obtain ⟨b, small', second⟩ := Hex.exists_padded fun c member => lower c (List.mem_append_right _ member)
  rw [four] at small first
  rw [eight] at small' second
  refine ⟨⟨.ofNat a, .ofNat b⟩, ?_⟩
  rw [display, UInt16.toNat_ofNat_of_lt' small, UInt32.toNat_ofNat_of_lt' small', first, second, ← same,
    String.ofList_toList]

theorem canonical_iff : Canonical text ↔ ∃ uid : Uid, uid.display = text := by
  constructor
  · exact Canonical.exists_display
  · rintro ⟨uid, rfl⟩
    exact canonical_display uid

end Writing

/-! ### Order -/

section Order

variable {u v : Uid}

theorem lt_iff : u < v ↔ u.manufacturer.toNat < v.manufacturer.toNat ∨
    u.manufacturer.toNat = v.manufacturer.toNat ∧ u.device.toNat < v.device.toNat := by
  rw [← UInt16.lt_iff_toNat_lt, UInt16.toNat_inj, ← UInt32.lt_iff_toNat_lt]
  rfl

theorem display_lt_iff : u.display.toByteArray.data.toList < v.display.toByteArray.data.toList ↔ u < v := by
  have same : (Text.bytes (Hex.padded 4 u.manufacturer.toNat)).length =
      (Text.bytes (Hex.padded 4 v.manufacturer.toNat)).length := by
    rw [Hex.length_bytes_padded, Hex.length_bytes_padded]
  have colon (rest rest' : List Char) :
      Text.bytes (':' :: rest) < Text.bytes (':' :: rest') ↔ Text.bytes rest < Text.bytes rest' := by
    have first (rest : List Char) : Text.bytes (':' :: rest) = 58 :: Text.bytes rest := rfl
    rw [first, first, List.cons_lt_cons_iff]
    simp
  have manufacturer (n : UInt16) : n.toNat % 16 ^ 4 = n.toNat := Nat.mod_eq_of_lt n.toNat_lt
  have device (n : UInt32) : n.toNat % 16 ^ 8 = n.toNat := Nat.mod_eq_of_lt n.toNat_lt
  rw [display, display, Text.toByteArray_ofList, Text.toByteArray_ofList, Text.bytes_append, Text.bytes_append,
    Text.append_lt_append_iff same, Hex.bytes_padded_lt_iff, Text.bytes_inj, Hex.padded_inj, colon,
    Hex.bytes_padded_lt_iff, manufacturer, manufacturer, device, device, lt_iff]

/--
A UID is read back from the text that it is written as. These texts are all that have the canonical form, and
among the texts that are accepted just those of that form are what their UID is written as. The bytes of the texts
are ordered as the UIDs are, so it does not matter which of them are sorted.
-/
theorem display_order (u v : Uid) :
    ofText u.display = .ok u ∧ (∀ text, (∃ uid : Uid, uid.display = text) ↔ Canonical text) ∧
      (∀ text uid, ofText text = .ok uid → (text = uid.display ↔ Canonical text)) ∧
      (u < v ↔ u.display.toByteArray.data.toList < v.display.toByteArray.data.toList) ∧
      ∀ uids, (Uid.sort uids).map display = (uids.map display).mergeSort fun s t =>
        !decide (t.toByteArray.data.toList < s.toByteArray.data.toList) := by
  refine ⟨ofText_display u, fun text => canonical_iff.symm, fun text uid read => ?_, display_lt_iff.symm,
    fun uids => List.map_mergeSort fun u _ v _ => by simp only [display_lt_iff]⟩
  rw [canonical_iff]
  constructor
  · rintro rfl
    exact ⟨uid, rfl⟩
  · rintro ⟨other, rfl⟩
    rw [Except.ok.inj ((ofText_display other).symm.trans read)]

end Order

end Conformance.Uid
