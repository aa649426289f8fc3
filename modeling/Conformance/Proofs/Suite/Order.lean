import Mathlib.Data.List.Nodup
import Conformance.Proofs.Sorted
import Conformance.Suite.Order

/-!
# Scheduling

Just the nodes that wait for nothing are ready in a queue (`Queue.mem_ready_ofWaiting`), and taking one of them
keeps it so (`Queue.take_ofWaiting`). So the queue comes to the schedule that looks for the least such node at
every step (`Queue.schedule_ofWaiting`), and `Waiting.schedule` is what the rest is about. A node is taken once,
after all that it waits for (`before_schedule`), and what is left over waits for something else that is left over
(`exists_waits_of_left`), so a waiting relation without infinite descent leaves nothing (`left_eq_nil`).
-/

namespace Conformance

namespace Waiting

/-- The least node that waits for nothing. -/
def ready? (w : Waiting) : Option Nat :=
  (w.entries.find? fun (_, deps) => deps.isEmpty).map (·.1)

def take (w : Waiting) (node : Nat) : Waiting := (w.erase node).mapValues fun deps => deps.erase node

theorem size_take_lt {w : Waiting} {node : Nat} (h : w.ready? = some node) : (w.take node).size < w.size := by
  obtain ⟨entry, found, rfl⟩ := Option.map_eq_some_iff.mp h
  have member := List.mem_of_find?_eq_some found
  rw [take, SortedMap.size_mapValues]
  exact List.length_filter_lt_length_iff_exists.mpr ⟨entry, member, by simp⟩

/-- The schedule of a queue, with its ready nodes looked up at every step. -/
def schedule (w : Waiting) : List Nat × List Nat :=
  match _next : w.ready? with
  | none => ([], w.keys)
  | some node =>
    let (order, unscheduled) := (w.take node).schedule
    (node :: order, unscheduled)
termination_by w.size
decreasing_by exact size_take_lt _next

/-- The first node waits for the second. -/
def Waits (w : Waiting) (i j : Nat) : Prop := ∃ deps, w.get? i = some deps ∧ j ∈ deps

variable {w : Waiting} {node i j : Nat}

theorem Waits.mem_keys (waits : w.Waits i j) : i ∈ w.keys := by
  obtain ⟨deps, known, -⟩ := waits
  exact SortedMap.mem_keys_iff.mpr ⟨deps, known⟩

/-! ### One step -/

theorem get?_take : (w.take node).get? i = if i = node then none else (w.get? i).map (·.erase node) := by
  rw [take, SortedMap.get?_mapValues, SortedMap.get?_erase]
  split <;> rfl

theorem mem_keys_take : i ∈ (w.take node).keys ↔ i ∈ w.keys ∧ i ≠ node := by
  rw [SortedMap.mem_keys_iff, SortedMap.mem_keys_iff, get?_take]
  split
  · next same => simp [same]
  · next different => simp [different]

theorem waits_take : (w.take node).Waits i j ↔ w.Waits i j ∧ i ≠ node ∧ j ≠ node := by
  simp only [Waits, get?_take]
  split
  · next same => simp [same]
  · next different =>
    simp only [Option.map_eq_some_iff]
    constructor
    · rintro ⟨_, ⟨deps, waiting, rfl⟩, member⟩
      obtain ⟨named, apart⟩ := SortedSet.mem_erase.mp member
      exact ⟨⟨deps, waiting, named⟩, different, apart⟩
    · rintro ⟨⟨deps, waiting, named⟩, -, apart⟩
      exact ⟨_, ⟨deps, waiting, rfl⟩, SortedSet.mem_erase.mpr ⟨named, apart⟩⟩

theorem ready?_eq_some (next : w.ready? = some node) : node ∈ w.keys ∧ ∀ j, ¬ w.Waits node j := by
  obtain ⟨⟨_, deps⟩, found, rfl⟩ := Option.map_eq_some_iff.mp next
  have waiting := SortedMap.get?_eq_some_iff.mpr (List.mem_of_find?_eq_some found)
  refine ⟨SortedMap.mem_keys_iff.mpr ⟨deps, waiting⟩, ?_⟩
  rintro j ⟨deps', waiting', member⟩
  rw [Option.some.inj (waiting'.symm.trans waiting)] at member
  have empty : deps.isEmpty = true := by simpa using List.find?_some found
  exact SortedSet.isEmpty_iff.mp empty j member

theorem ready?_eq_none (stuck : w.ready? = none) (key : i ∈ w.keys) : ∃ j, w.Waits i j := by
  obtain ⟨deps, waiting⟩ := SortedMap.mem_keys_iff.mp key
  have none := Option.map_eq_none_iff.mp stuck
  have held := List.find?_eq_none.mp none _ (SortedMap.get?_eq_some_iff.mp waiting)
  simp only [SortedSet.isEmpty_iff, not_forall, not_not] at held
  obtain ⟨j, member⟩ := held
  exact ⟨j, deps, waiting, member⟩

/-! ### The whole schedule -/

theorem schedule_of_none (stuck : w.ready? = none) : w.schedule = ([], w.keys) := by
  rw [schedule]
  split
  · rfl
  · next found => rw [stuck] at found; cases found

theorem schedule_of_some (next : w.ready? = some node) :
    w.schedule = (node :: (w.take node).schedule.1, (w.take node).schedule.2) := by
  rw [schedule]
  split
  · next found => rw [next] at found; cases found
  · next found => rw [Option.some.inj (found.symm.trans next)]

/-- Every node is taken or left over. -/
theorem mem_keys_iff (w : Waiting) : i ∈ w.keys ↔ i ∈ w.schedule.1 ∨ i ∈ w.schedule.2 := by
  induction w using schedule.induct with
  | case1 w stuck => simp [schedule_of_none stuck]
  | case2 w node next _ _ _ ih =>
    rw [schedule_of_some next, List.mem_cons, or_assoc, ← ih, mem_keys_take]
    by_cases same : i = node
    · simp [same, (ready?_eq_some next).1]
    · simp [same]

theorem not_mem_left (w : Waiting) (taken : i ∈ w.schedule.1) : i ∉ w.schedule.2 := by
  induction w using schedule.induct with
  | case1 w stuck =>
    rw [schedule_of_none stuck] at taken
    cases taken
  | case2 w node next _ _ _ ih =>
    rw [schedule_of_some next] at taken ⊢
    rcases List.mem_cons.mp taken with rfl | taken
    · intro left
      exact (mem_keys_take.mp ((mem_keys_iff _).mpr (.inr left))).2 rfl
    · exact ih taken

theorem nodup_schedule (w : Waiting) : w.schedule.1.Nodup := by
  induction w using schedule.induct with
  | case1 w stuck => simp [schedule_of_none stuck]
  | case2 w node next _ _ _ ih =>
    rw [schedule_of_some next]
    refine List.nodup_cons.mpr ⟨fun again => ?_, ih⟩
    exact (mem_keys_take.mp ((mem_keys_iff _).mpr (.inl again))).2 rfl

/-- A node is taken after all that it waits for. -/
theorem before_schedule (w : Waiting) {before after : List Nat} (split : w.schedule.1 = before ++ i :: after)
    (waits : w.Waits i j) : j ∈ before := by
  induction w using schedule.induct generalizing before with
  | case1 w stuck =>
    rw [schedule_of_none stuck] at split
    cases before <;> cases split
  | case2 w node next _ _ _ ih =>
    rw [schedule_of_some next] at split
    cases before with
    | nil =>
      rw [List.nil_append, List.cons.injEq] at split
      rw [← split.1] at waits
      exact absurd waits ((ready?_eq_some next).2 j)
    | cons head rest =>
      rw [List.cons_append, List.cons.injEq] at split
      by_cases first : j = node
      · rw [first, split.1]
        exact List.mem_cons_self
      · have apart : i ≠ node := by
          rintro rfl
          exact (ready?_eq_some next).2 j waits
        exact List.mem_cons_of_mem _ (ih split.2 (waits_take.mpr ⟨waits, apart, first⟩))

/-- A node that is left over waits for something that was not taken. -/
theorem exists_waits_of_left (w : Waiting) (left : i ∈ w.schedule.2) : ∃ j, w.Waits i j ∧ j ∉ w.schedule.1 := by
  induction w using schedule.induct with
  | case1 w stuck =>
    rw [schedule_of_none stuck] at left ⊢
    obtain ⟨j, waits⟩ := ready?_eq_none stuck left
    exact ⟨j, waits, List.not_mem_nil⟩
  | case2 w node next _ _ _ ih =>
    rw [schedule_of_some next] at left ⊢
    obtain ⟨j, waits, never⟩ := ih left
    obtain ⟨waits, -, apart⟩ := waits_take.mp waits
    exact ⟨j, waits, by simp [apart, never]⟩

end Waiting

/-! ### The queue -/

namespace Queue

open Waiting

variable {w : Waiting} {node i : Nat} {deps : SortedSet Nat}

theorem isEmpty_erase : (deps.erase node).isEmpty = (deps.isEmpty || unblocks node deps) := by
  by_cases member : node ∈ deps
  · have held : deps.isEmpty = false := by
      rw [Bool.eq_false_iff, ne_eq, SortedSet.isEmpty_iff]
      exact fun none => none node member
    simp [unblocks, member, held]
  · have same : deps.erase node = deps := by
      apply SortedSet.ext_mem
      intro x
      rw [SortedSet.mem_erase]
      exact and_iff_left_of_imp fun here apart => member (apart ▸ here)
    simp [unblocks, member, same]

/-- Just the nodes that wait for nothing are ready. -/
theorem mem_ready_ofWaiting : i ∈ (ofWaiting w).ready ↔ i ∈ w.keys ∧ ∀ j, ¬ w.Waits i j := by
  rw [ofWaiting, SortedSet.mem_ofList, SortedMap.mem_keys_filter, SortedMap.mem_keys_iff]
  constructor
  · rintro ⟨deps, known, empty⟩
    refine ⟨⟨deps, known⟩, ?_⟩
    rintro j ⟨deps', known', member⟩
    rw [Option.some.inj (known'.symm.trans known)] at member
    exact SortedSet.isEmpty_iff.mp empty j member
  · rintro ⟨⟨deps, known⟩, free⟩
    exact ⟨deps, known, SortedSet.isEmpty_iff.mpr fun j member => free j ⟨deps, known, member⟩⟩

theorem get?_remaining (w : Waiting) (i : Nat) :
    (ofWaiting w).remaining.get? i = (w.get? i).filter fun deps => !deps.isEmpty := SortedMap.get?_filter ..

/-- Taking a ready node keeps just the nodes ready that wait for nothing. -/
theorem take_ofWaiting (next : w.ready? = some node) : (ofWaiting w).take node = ofWaiting (w.take node) := by
  obtain ⟨key, free⟩ := ready?_eq_some next
  obtain ⟨deps, known⟩ := SortedMap.mem_keys_iff.mp key
  have empty : deps.isEmpty = true := SortedSet.isEmpty_iff.mpr fun j member => free j ⟨deps, known, member⟩
  have remaining : ((ofWaiting w).take node).remaining = (ofWaiting (w.take node)).remaining := by
    apply SortedMap.ext_get?
    intro i
    rw [get?_remaining, get?_take, Queue.take, SortedMap.get?_mapValues, SortedMap.get?_filter, get?_remaining]
    by_cases same : i = node
    · rw [same, known, if_pos rfl]
      simp [empty]
    · rw [if_neg same]
      cases w.get? i with
      | none => rfl
      | some deps => cases waits : deps.isEmpty <;> cases freed : unblocks node deps <;>
          simp [Option.filter, isEmpty_erase, waits, freed]
  have ready : ((ofWaiting w).take node).ready = (ofWaiting (w.take node)).ready := by
    apply SortedSet.ext_mem
    intro i
    rw [Queue.take, SortedSet.mem_insertMany, SortedSet.mem_erase, SortedMap.mem_keys_filter, ofWaiting, ofWaiting,
      SortedSet.mem_ofList, SortedSet.mem_ofList, SortedMap.mem_keys_filter, SortedMap.mem_keys_filter,
      SortedMap.get?_filter, get?_take]
    by_cases same : i = node
    · rw [same, known, if_pos rfl]
      simp [empty]
    · rw [if_neg same]
      cases w.get? i with
      | none => simp
      | some deps => cases waits : deps.isEmpty <;> cases freed : unblocks node deps <;>
          simp [Option.filter, isEmpty_erase, waits, freed, same]
  rw [Queue.mk.injEq]
  exact ⟨remaining, ready⟩

theorem head?_ready (w : Waiting) : (ofWaiting w).ready.toList.head? = w.ready? := by
  have sorted : (ofWaiting w).ready.toList = (w.filter fun _ deps => deps.isEmpty).keys := by
    refine (SortedSet.sorted _).eq_of_mem_iff (SortedMap.pairwise_keys _) fun {i} => ?_
    rw [← SortedSet.mem_def, ofWaiting, SortedSet.mem_ofList]
  rw [sorted, SortedMap.keys, List.head?_map, SortedMap.filter, List.head?_filter]
  rfl

/-- The queue of a map comes to the schedule of the map. -/
theorem schedule_ofWaiting (w : Waiting) : (ofWaiting w).schedule = w.schedule := by
  induction w using Waiting.schedule.induct with
  | case1 w stuck =>
    have all : (ofWaiting w).remaining = w := by
      apply SortedMap.ext_get?
      intro i
      rw [get?_remaining]
      cases known : w.get? i with
      | none => rfl
      | some deps =>
        obtain ⟨j, deps', known', member⟩ := ready?_eq_none stuck (SortedMap.mem_keys_iff.mpr ⟨deps, known⟩)
        have held : deps.isEmpty = false := by
          rw [Bool.eq_false_iff, ne_eq, SortedSet.isEmpty_iff]
          rw [Option.some.inj (known'.symm.trans known)] at member
          exact fun none => none j member
        simp [Option.filter, held]
    rw [schedule_of_none stuck, schedule]
    split
    · rw [all]
    · next found =>
      rw [head?_ready, stuck] at found
      cases found
  | case2 w node next _ _ _ ih =>
    rw [schedule_of_some next, schedule]
    split
    · next found =>
      rw [head?_ready, next] at found
      cases found
    · next node' found =>
      rw [head?_ready, next] at found
      rw [← Option.some.inj found, take_ofWaiting next, ih]

end Queue

theorem Order.ofEdges_eq (edges : Waiting) :
    ofEdges edges =
      ⟨(Waiting.ofEdges edges).schedule.1,
        if (Waiting.ofEdges edges).schedule.2.isEmpty then [] else
          [.cycleUnscheduled (Waiting.ofEdges edges).schedule.2]⟩ := by
  rw [ofEdges, Queue.schedule_ofWaiting]

namespace Waiting

variable {w : Waiting} {i j : Nat}

/-! ### The nodes that are only named -/

/-- Nothing waits for what is not a node. -/
def Closed (w : Waiting) : Prop := ∀ i j, w.Waits i j → j ∈ w.keys

theorem ofEdges_of_closed (closed : w.Closed) : ofEdges w = w := by
  have kept : ∀ nodes : List Nat, (∀ j ∈ nodes, j ∈ w.keys) →
      nodes.foldl (fun (w : Waiting) node => if w.contains node then w else w.insert node ∅) w = w := by
    intro nodes known
    induction nodes with
    | nil => rfl
    | cons head rest ih =>
      have here := SortedMap.contains_iff.mpr (SortedMap.mem_keys_iff.mp (known head List.mem_cons_self))
      rw [List.foldl_cons, if_pos here]
      exact ih fun j member => known j (List.mem_cons_of_mem _ member)
  refine kept _ fun j member => ?_
  obtain ⟨deps, value, named⟩ := List.mem_flatMap.mp member
  obtain ⟨⟨i, _⟩, entry, rfl⟩ := List.mem_map.mp value
  exact closed i j ⟨_, SortedMap.get?_eq_some_iff.mpr entry, named⟩

/-- A node from which waiting has no infinite descent is not left over. -/
theorem not_left_of_acc (closed : w.Closed) (grounded : Acc (fun j i => w.Waits i j) i) : i ∉ w.schedule.2 := by
  induction grounded with
  | intro i _ ih =>
    intro left
    obtain ⟨j, waits, never⟩ := exists_waits_of_left w left
    rcases (mem_keys_iff w).mp (closed i j waits) with early | late
    · exact never early
    · exact ih j waits late

/-- If waiting has no infinite descent, nothing is left over. -/
theorem left_eq_nil (closed : w.Closed) (grounded : ∀ i ∈ w.keys, Acc (fun j i => w.Waits i j) i) :
    w.schedule.2 = [] := by
  refine List.eq_nil_iff_forall_not_mem.mpr fun i left => not_left_of_acc closed (grounded i ?_) left
  exact (mem_keys_iff w).mpr (.inr left)

end Waiting

end Conformance
