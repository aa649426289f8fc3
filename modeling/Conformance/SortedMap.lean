/-!
Finite maps kept as a list of entries in strictly ascending order of their keys. The order is part
of the type, so whatever walks a map walks it in key order. `get?` is the view: `get?_insert` and
`get?_erase` say what the operations do to it.
-/

namespace Conformance

structure SortedMap (κ : Type u) (α : Type v) [LT κ] where
  entries : List (κ × α)
  sorted : entries.Pairwise fun a b => a.1 < b.1

namespace SortedMap

section Raw

variable {κ : Type u} {α : Type v} [DecidableEq κ]

def lookupEntry (key : κ) : List (κ × α) → Option α
  | [] => none
  | entry :: rest => if key = entry.1 then some entry.2 else lookupEntry key rest

theorem lookupEntry_filter (key other : κ) (entries : List (κ × α)) :
    lookupEntry other (entries.filter (·.1 ≠ key)) =
      if other = key then none else lookupEntry other entries := by
  induction entries with
  | nil => simp [lookupEntry]
  | cons head rest ih =>
    by_cases removed : head.1 = key
    · by_cases h : other = key <;> simp_all [lookupEntry]
    · by_cases h : other = head.1 <;> simp_all [lookupEntry]

theorem lookupEntry_map (f : α → β) (key : κ) (entries : List (κ × α)) :
    lookupEntry key (entries.map fun entry => (entry.1, f entry.2)) =
      (lookupEntry key entries).map f := by
  induction entries with
  | nil => rfl
  | cons head rest ih => by_cases h : key = head.1 <;> simp_all [lookupEntry]

variable [LT κ] [DecidableLT κ]

/-- Puts an entry before the first greater key, in place of an equal one. -/
def insertEntry (key : κ) (value : α) : List (κ × α) → List (κ × α)
  | [] => [(key, value)]
  | entry :: rest =>
    if key < entry.1 then (key, value) :: entry :: rest
    else if key = entry.1 then (key, value) :: rest
    else entry :: insertEntry key value rest

theorem mem_insertEntry {key : κ} {value : α} {entries : List (κ × α)} {entry : κ × α}
    (h : entry ∈ insertEntry key value entries) : entry = (key, value) ∨ entry ∈ entries := by
  induction entries with
  | nil => exact .inl (List.mem_singleton.mp h)
  | cons head rest ih =>
    rw [insertEntry] at h
    split at h
    · exact List.mem_cons.mp h
    · split at h
      · exact (List.mem_cons.mp h).imp_right (List.mem_cons_of_mem _)
      · rcases List.mem_cons.mp h with rfl | h
        · exact .inr List.mem_cons_self
        · exact (ih h).imp_right (List.mem_cons_of_mem _)

theorem lookupEntry_insertEntry (key other : κ) (value : α) (entries : List (κ × α)) :
    lookupEntry other (insertEntry key value entries) =
      if other = key then some value else lookupEntry other entries := by
  induction entries with
  | nil => simp [insertEntry, lookupEntry]
  | cons head rest ih =>
    rw [insertEntry]
    split
    · simp [lookupEntry]
    · split
      · next same => by_cases h : other = key <;> simp_all [lookupEntry]
      · next different =>
        by_cases h : other = head.1
        · have : ¬ other = key := fun same => different (same.symm.trans h)
          simp [lookupEntry, h, Ne.symm different]
        · simp [lookupEntry, h, ih]

end Raw

variable {κ : Type u} {α : Type v} [LT κ]

def empty : SortedMap κ α := ⟨[], .nil⟩

instance : EmptyCollection (SortedMap κ α) := ⟨empty⟩
instance : Inhabited (SortedMap κ α) := ⟨empty⟩

def keys (m : SortedMap κ α) : List κ := m.entries.map (·.1)

def values (m : SortedMap κ α) : List α := m.entries.map (·.2)

def size (m : SortedMap κ α) : Nat := m.entries.length

def isEmpty (m : SortedMap κ α) : Bool := m.entries.isEmpty

@[ext] theorem ext_entries {m m' : SortedMap κ α} (h : m.entries = m'.entries) : m = m' := by
  cases m; cases m'; simp_all

def mapValues (f : α → β) (m : SortedMap κ α) : SortedMap κ β where
  entries := m.entries.map fun entry => (entry.1, f entry.2)
  sorted := List.pairwise_map.mpr m.sorted

def filter (p : κ → α → Bool) (m : SortedMap κ α) : SortedMap κ α :=
  ⟨m.entries.filter fun entry => p entry.1 entry.2, m.sorted.filter _⟩

@[simp] theorem length_keys (m : SortedMap κ α) : m.keys.length = m.size := List.length_map _

@[simp] theorem size_mapValues (f : α → β) (m : SortedMap κ α) : (m.mapValues f).size = m.size := List.length_map _

theorem size_filter_add (p : κ → α → Bool) (m : SortedMap κ α) :
    (m.filter p).size + (m.filter fun key value => !p key value).size = m.size := by
  simp only [size, filter]
  induction m.entries with
  | nil => rfl
  | cons entry rest ih => cases h : p entry.1 entry.2 <;> simp [h] <;> omega

variable [DecidableEq κ]

def get? (m : SortedMap κ α) (key : κ) : Option α := lookupEntry key m.entries

def contains (m : SortedMap κ α) (key : κ) : Bool := (m.get? key).isSome

def erase (m : SortedMap κ α) (key : κ) : SortedMap κ α :=
  ⟨m.entries.filter (·.1 ≠ key), m.sorted.filter _⟩

@[simp] theorem get?_empty (key : κ) : (empty : SortedMap κ α).get? key = none := rfl

@[simp] theorem get?_erase (m : SortedMap κ α) (key other : κ) :
    (m.erase key).get? other = if other = key then none else m.get? other :=
  lookupEntry_filter key other m.entries

@[simp] theorem get?_mapValues (f : α → β) (m : SortedMap κ α) (key : κ) :
    (m.mapValues f).get? key = (m.get? key).map f :=
  lookupEntry_map f key m.entries

variable [LE κ] [DecidableLT κ] [Std.LawfulOrderLT κ] [Std.IsLinearOrder κ]

theorem pairwise_insertEntry (key : κ) (value : α) {entries : List (κ × α)}
    (sorted : entries.Pairwise fun a b => a.1 < b.1) :
    (insertEntry key value entries).Pairwise fun a b => a.1 < b.1 := by
  induction entries with
  | nil => simp [insertEntry]
  | cons head rest ih =>
    have ⟨below, tail⟩ := List.pairwise_cons.mp sorted
    rw [insertEntry]
    split
    · next less =>
      refine List.pairwise_cons.mpr ⟨fun entry member => ?_, sorted⟩
      rcases List.mem_cons.mp member with rfl | member
      · exact less
      · exact Std.lt_trans less (below entry member)
    · next notLess =>
      split
      · next same => exact List.pairwise_cons.mpr ⟨fun entry member => same ▸ below entry member, tail⟩
      · next different =>
        refine List.pairwise_cons.mpr ⟨fun entry member => ?_, ih tail⟩
        rcases mem_insertEntry member with rfl | member
        · rcases Std.lt_trichotomy key head.1 with less | same | greater
          · exact absurd less notLess
          · exact absurd same different
          · exact greater
        · exact below entry member

/-- Sets the value of a key; an earlier value is replaced. -/
def insert (m : SortedMap κ α) (key : κ) (value : α) : SortedMap κ α :=
  ⟨insertEntry key value m.entries, pairwise_insertEntry key value m.sorted⟩

@[simp] theorem get?_insert (m : SortedMap κ α) (key other : κ) (value : α) :
    (m.insert key value).get? other = if other = key then some value else m.get? other :=
  lookupEntry_insertEntry key other value m.entries

/-- Inserts the pairs in order, so the last value given for a key stays. -/
def ofList (pairs : List (κ × α)) : SortedMap κ α :=
  pairs.foldl (fun m pair => m.insert pair.1 pair.2) empty

end SortedMap

end Conformance
