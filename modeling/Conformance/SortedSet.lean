/-!
Finite sets kept as a list in strictly ascending order, which is the order in which they are walked
and shown. `∈` is the view: `mem_insert`, `mem_erase`, `mem_ofList` and `mem_union` say what the
operations do to it.
-/

namespace Conformance

structure SortedSet (κ : Type u) [LT κ] where
  toList : List κ
  sorted : toList.Pairwise (· < ·)

namespace SortedSet

section Raw

variable {κ : Type u} [LT κ] [DecidableLT κ] [DecidableEq κ]

def insertElement (x : κ) : List κ → List κ
  | [] => [x]
  | y :: rest => if x < y then x :: y :: rest else if x = y then y :: rest else y :: insertElement x rest

theorem mem_insertElement {x y : κ} {elements : List κ} :
    y ∈ insertElement x elements ↔ y = x ∨ y ∈ elements := by
  induction elements with
  | nil => simp [insertElement]
  | cons head rest ih =>
    rw [insertElement]
    split
    · exact List.mem_cons
    · split
      · next same => simp [same]
      · simp only [List.mem_cons, ih]
        exact or_left_comm

theorem length_insertElement_le (x : κ) (elements : List κ) :
    (insertElement x elements).length ≤ elements.length + 1 := by
  induction elements with
  | nil => exact Nat.le_refl _
  | cons head rest ih =>
    rw [insertElement]
    split
    · exact Nat.le_refl _
    · split
      · exact Nat.le_succ _
      · exact Nat.succ_le_succ ih

end Raw

variable {κ : Type u} [LT κ]

def empty : SortedSet κ := ⟨[], .nil⟩

instance : EmptyCollection (SortedSet κ) := ⟨empty⟩
instance : Inhabited (SortedSet κ) := ⟨empty⟩

@[ext] theorem ext_toList {s s' : SortedSet κ} (h : s.toList = s'.toList) : s = s' := by
  cases s; cases s'; simp_all

instance [DecidableEq κ] : DecidableEq (SortedSet κ) := fun s s' =>
  decidable_of_iff (s.toList = s'.toList) ⟨ext_toList, congrArg _⟩

instance : Membership κ (SortedSet κ) := ⟨fun s x => x ∈ s.toList⟩

instance [DecidableEq κ] (x : κ) (s : SortedSet κ) : Decidable (x ∈ s) :=
  inferInstanceAs (Decidable (x ∈ s.toList))

theorem mem_def {x : κ} {s : SortedSet κ} : x ∈ s ↔ x ∈ s.toList := .rfl

@[simp] theorem not_mem_empty (x : κ) : ¬ x ∈ (empty : SortedSet κ) := List.not_mem_nil

def size (s : SortedSet κ) : Nat := s.toList.length

def isEmpty (s : SortedSet κ) : Bool := s.toList.isEmpty

def filter (p : κ → Bool) (s : SortedSet κ) : SortedSet κ := ⟨s.toList.filter p, s.sorted.filter _⟩

def erase [DecidableEq κ] (s : SortedSet κ) (x : κ) : SortedSet κ := s.filter (· ≠ x)

@[simp] theorem mem_filter {p : κ → Bool} {s : SortedSet κ} {x : κ} :
    x ∈ s.filter p ↔ x ∈ s ∧ p x = true := List.mem_filter

@[simp] theorem mem_erase [DecidableEq κ] {s : SortedSet κ} {x y : κ} :
    y ∈ s.erase x ↔ y ∈ s ∧ y ≠ x := by
  simp [erase]

theorem size_erase_lt [DecidableEq κ] {s : SortedSet κ} {x : κ} (member : x ∈ s) : (s.erase x).size < s.size :=
  List.length_filter_lt_length_iff_exists.mpr ⟨x, member, by simp⟩

variable [DecidableEq κ] [LE κ] [DecidableLT κ] [Std.LawfulOrderLT κ] [Std.IsLinearOrder κ]

theorem pairwise_insertElement (x : κ) {elements : List κ} (sorted : elements.Pairwise (· < ·)) :
    (insertElement x elements).Pairwise (· < ·) := by
  induction elements with
  | nil => simp [insertElement]
  | cons head rest ih =>
    have ⟨below, tail⟩ := List.pairwise_cons.mp sorted
    rw [insertElement]
    split
    · next less =>
      refine List.pairwise_cons.mpr ⟨fun y member => ?_, sorted⟩
      rcases List.mem_cons.mp member with rfl | member
      · exact less
      · exact Std.lt_trans less (below y member)
    · next notLess =>
      split
      · exact sorted
      · next different =>
        refine List.pairwise_cons.mpr ⟨fun y member => ?_, ih tail⟩
        rcases mem_insertElement.mp member with rfl | member
        · rcases Std.lt_trichotomy y head with less | same | greater
          · exact absurd less notLess
          · exact absurd same different
          · exact greater
        · exact below y member

def insert (s : SortedSet κ) (x : κ) : SortedSet κ :=
  ⟨insertElement x s.toList, pairwise_insertElement x s.sorted⟩

@[simp] theorem mem_insert {s : SortedSet κ} {x y : κ} : y ∈ s.insert x ↔ y = x ∨ y ∈ s :=
  mem_insertElement

theorem size_insert_le (s : SortedSet κ) (x : κ) : (s.insert x).size ≤ s.size + 1 :=
  length_insertElement_le x s.toList

def insertMany (s : SortedSet κ) (elements : List κ) : SortedSet κ := elements.foldl insert s

@[simp] theorem mem_insertMany {s : SortedSet κ} {elements : List κ} {x : κ} :
    x ∈ s.insertMany elements ↔ x ∈ elements ∨ x ∈ s := by
  induction elements generalizing s with
  | nil => simp [insertMany]
  | cons head rest ih =>
    rw [insertMany, List.foldl_cons, ← insertMany, ih, mem_insert, List.mem_cons]
    exact or_left_comm.trans or_assoc.symm

theorem size_insertMany_le (s : SortedSet κ) (elements : List κ) :
    (s.insertMany elements).size ≤ s.size + elements.length := by
  induction elements generalizing s with
  | nil => exact Nat.le_refl _
  | cons head rest ih =>
    have first := s.size_insert_le head
    have others := ih (s.insert head)
    rw [insertMany, List.foldl_cons, ← insertMany, List.length_cons]
    omega

def ofList (elements : List κ) : SortedSet κ := empty.insertMany elements

@[simp] theorem mem_ofList {elements : List κ} {x : κ} : x ∈ ofList elements ↔ x ∈ elements := by
  simp [ofList]

def union (s s' : SortedSet κ) : SortedSet κ := s.insertMany s'.toList

instance : Union (SortedSet κ) := ⟨union⟩

@[simp] theorem mem_union {s s' : SortedSet κ} {x : κ} : x ∈ s ∪ s' ↔ x ∈ s ∨ x ∈ s' := by
  rw [show s ∪ s' = s.insertMany s'.toList from rfl, mem_insertMany, ← mem_def]
  exact or_comm

end SortedSet

end Conformance
