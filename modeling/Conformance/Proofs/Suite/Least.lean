import Conformance.Proofs.Suite.Unscheduled

/-!
# The least order

Many orders of the same nodes put every node after its dependencies. They are compared node by node from
the front, and a schedule comes before all the others (`schedule_first`), since it always takes the least node
that any of them could begin with. `least_of_acyclic` says so of the order of any edges without a cycle.
-/

namespace Conformance

open Relation

namespace Waiting

variable {w : Waiting} {node i j : Nat} {rest order : List Nat}

/-- The list has every node once, after all that the node waits for. -/
structure Admits (w : Waiting) (order : List Nat) : Prop where
  perm : order.Perm w.nodes.toList
  before : ∀ {early late : List Nat} {i j : Nat}, order = early ++ i :: late → w.Waits i j → j ∈ early

theorem Closed.mem_nodes (closed : w.Closed) : i ∈ w.nodes ↔ i ∈ w.keys := by
  rw [Waiting.mem_nodes]
  refine ⟨fun either => either.elim id fun named => ?_, .inl⟩
  obtain ⟨deps, value, member⟩ := List.mem_flatMap.mp named
  obtain ⟨⟨k, _⟩, entry, rfl⟩ := List.mem_map.mp value
  exact closed k i ⟨_, SortedMap.get?_eq_some_iff.mpr entry, member⟩

theorem Closed.take (closed : w.Closed) : (w.take node).Closed := by
  intro i j waits
  obtain ⟨waits, -, apart⟩ := waits_take.mp waits
  exact mem_keys_take.mpr ⟨closed i j waits, apart⟩

/-- Of the nodes that wait for nothing, the one that is taken next is the least. -/
theorem ready?_le (next : w.ready? = some node) (key : i ∈ w.keys) (free : ∀ j, ¬ w.Waits i j) : node ≤ i := by
  obtain ⟨entry, found, rfl⟩ := Option.map_eq_some_iff.mp next
  obtain ⟨-, before, after, entries, skipped⟩ := List.find?_eq_some_iff_append.mp found
  obtain ⟨deps, known⟩ := SortedMap.mem_keys_iff.mp key
  have empty : deps.isEmpty = true := by
    apply SortedSet.isEmpty_iff.mpr
    intro j member
    exact free j ⟨deps, known, member⟩
  have member := SortedMap.get?_eq_some_iff.mp known
  have ascending := w.sorted
  rw [entries] at member ascending
  rcases List.mem_append.mp member with early | late
  · have held := skipped _ early
    simp [empty] at held
  · rcases List.mem_cons.mp late with same | later
    · rw [← same]
    · obtain ⟨-, tail, -⟩ := List.pairwise_append.mp ascending
      exact Nat.le_of_lt ((List.pairwise_cons.mp tail).1 _ later)

namespace Admits

theorem nodup (admits : w.Admits order) : order.Nodup := admits.perm.nodup_iff.mpr w.nodes.sorted.nodup

theorem mem_iff (admits : w.Admits order) (closed : w.Closed) : i ∈ order ↔ i ∈ w.keys := by
  rw [admits.perm.mem_iff, ← SortedSet.mem_def, closed.mem_nodes]

theorem head_free (admits : w.Admits (node :: rest)) : ∀ j, ¬ w.Waits node j := by
  intro j waits
  have early : j ∈ [] := admits.before rfl waits
  cases early

/-- Without its first node, an order is one of the nodes that are left when that node has been taken. -/
theorem tail (admits : w.Admits (node :: rest)) (closed : w.Closed) : (w.take node).Admits rest := by
  obtain ⟨apart, once⟩ := List.nodup_cons.mp admits.nodup
  refine ⟨(List.perm_ext_iff_of_nodup once (SortedSet.sorted _).nodup).mpr fun i => ?_, ?_⟩
  · rw [← SortedSet.mem_def, closed.take.mem_nodes, mem_keys_take, ← admits.mem_iff closed, List.mem_cons]
    constructor
    · intro member
      refine ⟨.inr member, ?_⟩
      rintro rfl
      exact apart member
    · rintro ⟨member, different⟩
      exact member.resolve_left different
  · intro early late i j split waits
    obtain ⟨waits, -, different⟩ := waits_take.mp waits
    have member : j ∈ node :: early := admits.before (by rw [split, List.cons_append]) waits
    exact (List.mem_cons.mp member).resolve_left different

end Admits

/-- A schedule comes before every other order of the same nodes. -/
theorem schedule_first (closed : w.Closed) (admits : w.Admits order) :
    order = w.schedule.1 ∨ List.Lex (· < ·) w.schedule.1 order := by
  induction w using schedule.induct generalizing order with
  | case1 w stuck =>
    rw [schedule_of_none stuck]
    cases order with
    | nil => exact .inl rfl
    | cons first rest => exact .inr .nil
  | case2 w node next _ _ _ ih =>
    obtain ⟨key, -⟩ := ready?_eq_some next
    rw [schedule_of_some next]
    cases order with
    | nil => cases (admits.mem_iff closed).mpr key
    | cons first rest =>
      have firstKey := (admits.mem_iff closed).mp List.mem_cons_self
      -- The other order begins with a node that is free as well, so with a greater one or with the same.
      rcases Nat.lt_or_eq_of_le (ready?_le next firstKey admits.head_free) with less | rfl
      · exact .inr (.rel less)
      · rcases ih closed.take (admits.tail closed) with same | less
        · exact .inl (congrArg _ same)
        · exact .inr (.cons less)

theorem admits_ofEdges (edges : Waiting) : (ofEdges edges).Admits order ↔ edges.Admits order := by
  have sameNodes : (ofEdges edges).nodes = edges.nodes := by
    apply SortedSet.ext_mem
    intro i
    exact (closed_ofEdges edges).mem_nodes.trans mem_keys_ofEdges
  constructor
  · rintro ⟨perm, before⟩
    exact ⟨sameNodes ▸ perm, fun split waits => before split (waits_ofEdges.mpr waits)⟩
  · rintro ⟨perm, before⟩
    exact ⟨sameNodes ▸ perm, fun split waits => before split (waits_ofEdges.mp waits)⟩

/-- A schedule that leaves nothing over is an order of all nodes. -/
theorem admits_schedule (closed : w.Closed) (all : w.schedule.2 = []) : w.Admits w.schedule.1 := by
  refine ⟨(List.perm_ext_iff_of_nodup (nodup_schedule w) (SortedSet.sorted _).nodup).mpr fun i => ?_,
    fun split waits => before_schedule w split waits⟩
  rw [← SortedSet.mem_def, closed.mem_nodes, mem_keys_iff w, all]
  simp

theorem left_ofEdges_eq_nil_iff (edges : Waiting) :
    (ofEdges edges).schedule.2 = [] ↔ ∀ i, ¬ TransGen edges.Waits i i := by
  have closed := closed_ofEdges edges
  rw [← waits_ofEdges_eq edges]
  constructor
  · intro all i cycle
    obtain ⟨j, waits, -⟩ := TransGen.head'_iff.mp cycle
    have key := waits.mem_keys
    rw [mem_keys_iff, all] at key
    exact not_cycleBelow_of_taken (key.resolve_right List.not_mem_nil) ⟨i, .refl, cycle⟩
  · intro acyclic
    apply left_eq_nil closed
    intro i key
    exact acc_of_not_cycleBelow closed key fun ⟨j, _, cycle⟩ => acyclic j cycle

end Waiting

namespace Order

/-- There is nothing to complain about just if there is no cycle. -/
theorem events_eq_nil_iff (edges : Waiting) :
    (ofEdges edges).events = [] ↔ ∀ node, ¬ TransGen edges.Waits node node := by
  rw [← Waiting.left_ofEdges_eq_nil_iff, ofEdges_eq]
  simp

/--
Edges without a cycle have orders of all their nodes in which every node comes after its dependencies, and the
one that is returned is the least of them: at the first place where another differs, it has the smaller node.
-/
theorem least_of_acyclic (edges : Waiting) (acyclic : ∀ node, ¬ TransGen edges.Waits node node) :
    edges.Admits (ofEdges edges).nodes ∧
      ∀ order, edges.Admits order → order ≠ (ofEdges edges).nodes →
        List.Lex (· < ·) (ofEdges edges).nodes order := by
  have closed := Waiting.closed_ofEdges edges
  have all := (Waiting.left_ofEdges_eq_nil_iff edges).mpr acyclic
  rw [nodes_ofEdges]
  refine ⟨(Waiting.admits_ofEdges edges).mp (Waiting.admits_schedule closed all), fun order admits different => ?_⟩
  have first := Waiting.schedule_first closed ((Waiting.admits_ofEdges edges).mpr admits)
  exact first.resolve_left different

/-- Nodes that become free late go before greater ones that were free from the start. -/
theorem least_of_acyclic_late :
    let edges : Waiting := .ofList [(0, .ofList [2]), (1, ∅), (2, .ofList [1, 3]), (4, ∅)]
    (∀ node, ¬ TransGen edges.Waits node node) ∧ edges.Admits [1, 3, 2, 0, 4] ∧
      ∀ order, edges.Admits order → order ≠ [1, 3, 2, 0, 4] → List.Lex (· < ·) [1, 3, 2, 0, 4] order := by
  intro edges
  have acyclic : ∀ node, ¬ TransGen edges.Waits node node := (events_eq_nil_iff edges).mp (by decide +kernel)
  have order : (ofEdges edges).nodes = [1, 3, 2, 0, 4] := by decide +kernel
  have least := least_of_acyclic edges acyclic
  rw [order] at least
  exact ⟨acyclic, least⟩

end Order

end Conformance
