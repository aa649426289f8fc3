import Mathlib.Data.List.Sort
import Conformance.SortedMap
import Conformance.SortedSet

/-!
# Walking sets and maps

Sets and maps are walked in ascending order, so the first element that a search finds is the least that it
could have found. The entries of a map are the pairs that looking up finds, and build the map again
(`SortedMap.ofList_entries`). A set is its elements and a map what looking up finds (`SortedSet.ext_mem`,
`SortedMap.ext_get?`).
-/

namespace Conformance

namespace SortedSet

variable {κ : Type u} {α : Type v} [LT κ] [LE κ] [Std.LawfulOrderLT κ] [Std.IsLinearOrder κ] {s : SortedSet κ}
  {x : κ} {value : α}

omit [LE κ] [Std.LawfulOrderLT κ] [Std.IsLinearOrder κ] in
theorem isEmpty_iff : s.isEmpty = true ↔ ∀ x, ¬ x ∈ s := by
  rw [isEmpty, List.isEmpty_iff, List.eq_nil_iff_forall_not_mem]
  exact .rfl

/-- What stands before an element of an ascending list is all that is less. -/
theorem mem_before_iff {before after : List κ} (split : s.toList = before ++ x :: after) {y : κ} :
    y ∈ before ↔ y ∈ s ∧ y < x := by
  have ascending := s.sorted
  rw [split] at ascending
  obtain ⟨-, tail, crossed⟩ := List.pairwise_append.mp ascending
  rw [mem_def, split, List.mem_append, List.mem_cons]
  constructor
  · intro early
    exact ⟨.inl early, crossed y early x List.mem_cons_self⟩
  · rintro ⟨early | rfl | late, less⟩
    · exact early
    · exact absurd less Std.lt_irrefl
    · exact absurd (Std.lt_trans less ((List.pairwise_cons.mp tail).1 y late)) Std.lt_irrefl

theorem find?_eq_some_iff {p : κ → Bool} :
    s.toList.find? p = some x ↔ x ∈ s ∧ p x = true ∧ ∀ y < x, y ∈ s → p y = false := by
  rw [List.find?_eq_some_iff_append]
  constructor
  · rintro ⟨holds, before, after, split, fails⟩
    refine ⟨?_, holds, fun y less member => ?_⟩
    · rw [mem_def, split]
      exact List.mem_append_right _ List.mem_cons_self
    · simpa using fails y ((mem_before_iff split).mpr ⟨member, less⟩)
  · rintro ⟨member, holds, fails⟩
    obtain ⟨before, after, split⟩ := List.append_of_mem (mem_def.mp member)
    refine ⟨holds, before, after, split, fun y early => ?_⟩
    obtain ⟨within, less⟩ := (mem_before_iff split).mp early
    simpa using fails y less within

theorem findSome?_eq_some {f : κ → Option α} (found : s.toList.findSome? f = some value) :
    ∃ x ∈ s, f x = some value ∧ ∀ y < x, y ∈ s → f y = none := by
  obtain ⟨before, x, after, split, here, fails⟩ := List.findSome?_eq_some_iff.mp found
  refine ⟨x, ?_, here, fun y less member => fails y ((mem_before_iff split).mpr ⟨member, less⟩)⟩
  rw [mem_def, split]
  exact List.mem_append_right _ List.mem_cons_self

theorem ext_mem {s s' : SortedSet κ} (same : ∀ x, x ∈ s ↔ x ∈ s') : s = s' :=
  ext_toList (s.sorted.eq_of_mem_iff s'.sorted same)

end SortedSet

namespace SortedMap

variable {κ : Type u} {α : Type v} [LT κ] [DecidableEq κ] {key : κ} {value : α}

section Ordered

variable [LE κ] [Std.LawfulOrderLT κ]

theorem lookupEntry_eq_some_iff {entries : List (κ × α)} (sorted : entries.Pairwise fun a b => a.1 < b.1) :
    lookupEntry key entries = some value ↔ (key, value) ∈ entries := by
  induction entries with
  | nil => simp [lookupEntry]
  | cons head rest ih =>
    obtain ⟨below, tail⟩ := List.pairwise_cons.mp sorted
    obtain ⟨first, held⟩ := head
    rw [lookupEntry, List.mem_cons, Prod.mk.injEq]
    split
    · next same =>
      subst same
      have apart : (key, value) ∉ rest := fun member => Std.lt_irrefl (below (key, value) member)
      simp [apart, eq_comm]
    · next different => simp [ih tail, different]

theorem get?_eq_some_iff {m : SortedMap κ α} : m.get? key = some value ↔ (key, value) ∈ m.entries :=
  lookupEntry_eq_some_iff m.sorted

theorem get?_filter (m : SortedMap κ α) (p : κ → α → Bool) (key : κ) :
    (m.filter p).get? key = (m.get? key).filter (p key) := by
  apply Option.ext
  intro value
  rw [get?_eq_some_iff, Option.filter_eq_some_iff, get?_eq_some_iff]
  exact List.mem_filter

theorem mem_keys_iff {m : SortedMap κ α} : key ∈ m.keys ↔ ∃ value, m.get? key = some value := by
  simp [keys, get?_eq_some_iff]

theorem mem_keys_filter {m : SortedMap κ α} {p : κ → α → Bool} :
    key ∈ (m.filter p).keys ↔ ∃ value, m.get? key = some value ∧ p key value = true := by
  simp only [mem_keys_iff, get?_filter, Option.filter_eq_some_iff]

theorem ext_get? [Std.IsLinearOrder κ] {m m' : SortedMap κ α} (same : ∀ key, m.get? key = m'.get? key) : m = m' := by
  have asymm : Std.Antisymm fun a b : κ × α => a.1 < b.1 :=
    ⟨fun _ _ less greater => absurd (Std.lt_trans less greater) Std.lt_irrefl⟩
  have irrefl : Std.Irrefl fun a b : κ × α => a.1 < b.1 := ⟨fun _ => Std.lt_irrefl⟩
  apply ext_entries
  apply m.sorted.eq_of_mem_iff m'.sorted
  rintro ⟨key, value⟩
  rw [← get?_eq_some_iff, ← get?_eq_some_iff, same]

end Ordered

theorem contains_iff {m : SortedMap κ α} : m.contains key = true ↔ ∃ value, m.get? key = some value := by
  rw [contains, Option.isSome_iff_exists]

omit [DecidableEq κ] in
theorem nodup_entries [LE κ] [Std.LawfulOrderLT κ] (m : SortedMap κ α) : m.entries.Nodup := by
  refine m.sorted.imp fun {entry other} less same => ?_
  rw [same] at less
  exact Std.lt_irrefl less

omit [DecidableEq κ] in
theorem pairwise_keys (m : SortedMap κ α) : m.keys.Pairwise (· < ·) := List.pairwise_map.mpr m.sorted

section Ascending

variable [LE κ] [DecidableLT κ] [Std.LawfulOrderLT κ] [Std.IsLinearOrder κ]

theorem insertEntry_of_above {entries : List (κ × α)} (above : ∀ entry ∈ entries, entry.1 < key) :
    insertEntry key value entries = entries ++ [(key, value)] := by
  induction entries with
  | nil => rfl
  | cons head rest ih =>
    obtain ⟨here, further⟩ := List.forall_mem_cons.mp above
    have different : key ≠ head.1 := fun same => Std.lt_irrefl (same ▸ here)
    rw [insertEntry, if_neg (Std.not_lt.mpr (Std.le_of_lt here)), if_neg different, ih further, List.cons_append]

theorem entries_foldl_insert {entries : List (κ × α)} {m : SortedMap κ α}
    (sorted : (m.entries ++ entries).Pairwise fun a b => a.1 < b.1) :
    (entries.foldl (fun m entry => m.insert entry.1 entry.2) m).entries = m.entries ++ entries := by
  induction entries generalizing m with
  | nil => rw [List.foldl_nil, List.append_nil]
  | cons head rest ih =>
    have above : ∀ entry ∈ m.entries, entry.1 < head.1 := fun entry member =>
      (List.pairwise_append.mp sorted).2.2 entry member head List.mem_cons_self
    have inserted : (m.insert head.1 head.2).entries = m.entries ++ [head] := insertEntry_of_above above
    rw [List.foldl_cons, ih, inserted, List.append_assoc, List.singleton_append]
    rw [inserted, List.append_assoc, List.singleton_append]
    exact sorted

/-- A map is built again from its entries. -/
theorem ofList_entries (m : SortedMap κ α) : ofList m.entries = m :=
  ext_entries (entries_foldl_insert m.sorted)

theorem get?_foldl_insert {pairs : List (κ × α)} {m : SortedMap κ α} (once : (pairs.map Prod.fst).Nodup) :
    (pairs.foldl (fun m pair => m.insert pair.1 pair.2) m).get? key = some value ↔
      (key, value) ∈ pairs ∨ key ∉ pairs.map Prod.fst ∧ m.get? key = some value := by
  induction pairs generalizing m with
  | nil => simp
  | cons first rest ih =>
    obtain ⟨fresh, once⟩ := List.nodup_cons.mp once
    rw [List.foldl_cons, ih once, get?_insert]
    obtain ⟨held, other⟩ := first
    have apart : ∀ value, (held, value) ∉ rest := fun _ member => fresh (List.mem_map.mpr ⟨_, member, rfl⟩)
    by_cases same : key = held
    · subst same
      simp [apart, fresh, eq_comm]
    · simp [same]

/-- Of pairs with different keys, a map keeps all. -/
theorem get?_ofList {pairs : List (κ × α)} (once : (pairs.map Prod.fst).Nodup) :
    (ofList pairs).get? key = some value ↔ (key, value) ∈ pairs := by
  rw [ofList, get?_foldl_insert once]
  simp

end Ascending

end SortedMap

end Conformance
