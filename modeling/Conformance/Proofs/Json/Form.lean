import Conformance.Json.Form
import Conformance.Proofs.Sorted

/-!
# Documents that stand for their values

A form is lawful if decoding what it encodes gives the value back. This is shown here of the forms that all others
are made of; a record then is lawful because each of its fields is.
-/

namespace Conformance

class LawfulJsonForm (α : Type) [JsonForm α] : Prop where
  decode_encode (v : α) : decode? (encode v) = some v

namespace Json

variable {α : Type} [JsonForm α]

@[simp] theorem decode?_encode [LawfulJsonForm α] (v : α) : decode? (encode v) = some v :=
  LawfulJsonForm.decode_encode v

@[simp] theorem required?_encode [LawfulJsonForm α] (v : α) : required? (some (encode v)) = some v :=
  decode?_encode v

theorem map_decode?_encode {β : Type} [LawfulJsonForm α] (f : α → β) (v : α) :
    (decode? (encode v)).map f = some (f v) := by
  rw [decode?_encode, Option.map_some]

instance : LawfulJsonForm Json := ⟨fun _ => rfl⟩

instance : LawfulJsonForm Bool := ⟨fun _ => rfl⟩

instance : LawfulJsonForm String := ⟨fun _ => rfl⟩

theorem natBelow?_ofNat {bound n : Nat} (below : n < bound) : natBelow? bound (.int n) = some n := by
  show (if n < bound then some n else none) = some n
  rw [if_pos below]

/-- A word is given back by its number, which is below the bound of the word. -/
theorem natBelow?_map {β : Type} {bound n : Nat} {ofNat : Nat → β} {v : β} (below : n < bound)
    (back : ofNat n = v) : (natBelow? bound (.int n)).map ofNat = some v := by
  rw [natBelow?_ofNat below, Option.map_some, back]

instance : LawfulJsonForm UInt8 := ⟨fun v => natBelow?_map v.toNat_lt UInt8.ofNat_toNat⟩

instance : LawfulJsonForm UInt16 := ⟨fun v => natBelow?_map v.toNat_lt UInt16.ofNat_toNat⟩

instance : LawfulJsonForm UInt32 := ⟨fun v => natBelow?_map v.toNat_lt UInt32.ofNat_toNat⟩

instance : LawfulJsonForm UInt64 := ⟨fun v => natBelow?_map v.toNat_lt UInt64.ofNat_toNat⟩

instance : LawfulJsonForm Int16 where
  decode_encode v := by
    show (if Int16.minValue.toInt ≤ v.toInt ∧ v.toInt ≤ Int16.maxValue.toInt then some (Int16.ofInt v.toInt)
      else none) = some v
    rw [if_pos ⟨v.minValue_le_toInt, v.toInt_le⟩, Int16.ofInt_toInt]

theorem mapM_encode {items : List α} (kept : ∀ item ∈ items, decode? (encode item) = some item) :
    (items.map encode).mapM decode? = some items := by
  induction items with
  | nil => rfl
  | cons first rest ih =>
    obtain ⟨here, further⟩ := List.forall_mem_cons.mp kept
    rw [List.map_cons, List.mapM_cons, here, ih further]
    rfl

/-- A list is given back if each of its items is. -/
theorem list_decode?_encode {items : List α} (kept : ∀ item ∈ items, decode? (encode item) = some item) :
    decode? (encode items) = some items := mapM_encode kept

instance [LawfulJsonForm α] : LawfulJsonForm (List α) :=
  ⟨fun _ => list_decode?_encode fun _ _ => decode?_encode _⟩

theorem optional?_present {value : α} (notNull : encode value ≠ .null) (kept : decode? (encode value) = some value) :
    optional? decode? (some (encode value)) = some (some value) := by
  unfold optional?
  split
  · next absent => cases absent
  · next null => exact absurd (Option.some.inj null) notNull
  · next document present => rw [← Option.some.inj present, kept, Option.map_some]

/-- A field that may be null is given back if its value is, and is not null itself. -/
theorem optional?_encode {v : Option α}
    (kept : ∀ value, v = some value → encode value ≠ .null ∧ decode? (encode value) = some value) :
    optional? decode? (some (encode v)) = some v := by
  cases v with
  | none => rfl
  | some value => exact optional?_present (kept value rfl).1 (kept value rfl).2

end Json

end Conformance
