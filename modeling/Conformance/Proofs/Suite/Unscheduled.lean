import Mathlib.Data.Fintype.Card
import Mathlib.Data.List.Sort
import Mathlib.Data.Set.Finite.List
import Mathlib.Logic.Relation
import Conformance.Proofs.Suite.Order

/-!
# What an order leaves out

The edges of an order may have cycles in them, and may name nodes that have no edges of their own. A node is
scheduled just if no cycle can be reached from it (`mem_schedule_iff`); that it is on no cycle itself is not
enough. `scheduled_iff_no_cycle_below` says this of the order of any edges, with the complaint about the nodes
that it leaves out.
-/

namespace Conformance

open Relation

namespace Waiting

variable {w : Waiting} {named : List Nat} {node i j : Nat}

/-- All nodes: those that have edges and those that are named as dependencies. -/
def nodes (w : Waiting) : SortedSet Nat := .ofList (w.keys ++ w.values.flatMap SortedSet.toList)

theorem mem_nodes : i ∈ w.nodes ↔ i ∈ w.keys ∨ i ∈ w.values.flatMap SortedSet.toList := by
  rw [nodes, SortedSet.mem_ofList, List.mem_append]

theorem mem_named_of_waits (waits : w.Waits i j) : j ∈ w.values.flatMap SortedSet.toList := by
  obtain ⟨deps, known, member⟩ := waits
  have entry := SortedMap.get?_eq_some_iff.mp known
  exact List.mem_flatMap.mpr ⟨deps, List.mem_map_of_mem entry, member⟩

/-! ### Adding the nodes that are only named -/

def add (w : Waiting) (node : Nat) : Waiting := if w.contains node then w else w.insert node ∅

theorem mem_keys_add : i ∈ (w.add node).keys ↔ i ∈ w.keys ∨ i = node := by
  unfold add
  split
  · next known =>
    have here := SortedMap.mem_keys_iff.mpr (SortedMap.contains_iff.mp known)
    exact ⟨.inl, fun either => either.elim id fun same => same ▸ here⟩
  · rw [SortedMap.mem_keys_iff, SortedMap.mem_keys_iff, SortedMap.get?_insert]
    by_cases same : i = node <;> simp [same]

theorem waits_add : (w.add node).Waits i j ↔ w.Waits i j := by
  unfold add
  split
  · rfl
  · next new =>
    have absent : w.get? node = none := by simpa [SortedMap.contains] using new
    rw [Waits, Waits, SortedMap.get?_insert]
    split
    · next same =>
      rw [same, absent]
      constructor
      · rintro ⟨_, ⟨⟩, ⟨⟩⟩
      · rintro ⟨_, ⟨⟩, _⟩
    · rfl

theorem mem_keys_foldl_add : i ∈ (named.foldl add w).keys ↔ i ∈ w.keys ∨ i ∈ named := by
  induction named generalizing w with
  | nil => simp
  | cons first rest ih => rw [List.foldl_cons, ih, mem_keys_add, List.mem_cons, or_assoc]

theorem waits_foldl_add : (named.foldl add w).Waits i j ↔ w.Waits i j := by
  induction named generalizing w with
  | nil => rfl
  | cons first rest ih => rw [List.foldl_cons, ih, waits_add]

theorem mem_keys_ofEdges : i ∈ (ofEdges w).keys ↔ i ∈ w.nodes := mem_keys_foldl_add.trans mem_nodes.symm

theorem waits_ofEdges : (ofEdges w).Waits i j ↔ w.Waits i j := waits_foldl_add

theorem waits_ofEdges_eq (w : Waiting) : (ofEdges w).Waits = w.Waits := by
  funext i j
  exact propext waits_ofEdges

theorem closed_ofEdges (w : Waiting) : (ofEdges w).Closed := by
  intro i j waits
  rw [mem_keys_ofEdges, mem_nodes]
  exact .inr (mem_named_of_waits (waits_ofEdges.mp waits))

/-! ### Cycles -/

/-- A node that waits for itself can be reached from the node, or is the node. -/
def CycleBelow (w : Waiting) (i : Nat) : Prop := ∃ j, ReflTransGen w.Waits i j ∧ TransGen w.Waits j j

theorem idxOf_lt_of_waits (taken : i ∈ w.schedule.1) (waits : w.Waits i j) :
    j ∈ w.schedule.1 ∧ w.schedule.1.idxOf j < w.schedule.1.idxOf i := by
  obtain ⟨before, after, split⟩ := List.append_of_mem taken
  have first := before_schedule w split waits
  have apart : i ∉ before := by
    have once := nodup_schedule w
    rw [split] at once
    exact fun early => (List.nodup_append.mp once).2.2 i early i List.mem_cons_self rfl
  rw [split, List.idxOf_append_of_mem first, List.idxOf_append_of_notMem apart]
  have within := List.idxOf_lt_length_of_mem first
  exact ⟨List.mem_append_left _ first, by omega⟩

theorem idxOf_lt_of_transGen (taken : i ∈ w.schedule.1) (path : TransGen w.Waits i j) :
    j ∈ w.schedule.1 ∧ w.schedule.1.idxOf j < w.schedule.1.idxOf i := by
  induction path with
  | single waits => exact idxOf_lt_of_waits taken waits
  | tail _ waits ih =>
    obtain ⟨further, less⟩ := idxOf_lt_of_waits ih.1 waits
    exact ⟨further, less.trans ih.2⟩

theorem not_cycleBelow_of_taken (taken : i ∈ w.schedule.1) : ¬ w.CycleBelow i := by
  rintro ⟨j, path, cycle⟩
  have also : j ∈ w.schedule.1 := by
    rcases reflTransGen_iff_eq_or_transGen.mp path with rfl | path
    · exact taken
    · exact (idxOf_lt_of_transGen taken path).1
  exact Nat.lt_irrefl _ (idxOf_lt_of_transGen also cycle).2

theorem Closed.mem_keys (closed : w.Closed) (key : i ∈ w.keys) (path : ReflTransGen w.Waits i j) : j ∈ w.keys := by
  induction path with
  | refl => exact key
  | tail _ waits _ => exact closed _ _ waits

/-- There are only so many nodes, so waiting that goes on without end comes back to a node. -/
theorem acc_of_not_cycleBelow (closed : w.Closed) (key : i ∈ w.keys) (free : ¬ w.CycleBelow i) :
    Acc (fun j i => w.Waits i j) i := by
  let Below := { j // ReflTransGen w.Waits i j }
  have finite : Finite Below :=
    Set.Finite.subset (List.finite_toSet w.keys) fun _ path => closed.mem_keys key path
  let r (a b : Below) : Prop := TransGen w.Waits b.1 a.1
  have irrefl : Std.Irrefl r := ⟨fun a cycle => free ⟨a.1, a.2, cycle⟩⟩
  have trans : IsTrans Below r := ⟨fun _ _ _ ab bc => bc.trans ab⟩
  have grounded : ∀ a : Below, Acc (fun j i => w.Waits i j) a.1 := by
    intro a
    induction (Finite.wellFounded_of_trans_of_irrefl r).apply a with
    | intro a _ ih =>
      exact ⟨_, fun j waits => ih ⟨j, a.2.tail waits⟩ (.single waits)⟩
  exact grounded ⟨i, .refl⟩

/-- A node is scheduled just if there is no cycle below it. -/
theorem mem_schedule_iff (closed : w.Closed) : i ∈ w.schedule.1 ↔ i ∈ w.keys ∧ ¬ w.CycleBelow i := by
  constructor
  · intro taken
    exact ⟨(mem_keys_iff w).mpr (.inl taken), not_cycleBelow_of_taken taken⟩
  · rintro ⟨key, free⟩
    exact ((mem_keys_iff w).mp key).resolve_right (not_left_of_acc closed (acc_of_not_cycleBelow closed key free))

theorem pairwise_left (w : Waiting) : w.schedule.2.Pairwise (· < ·) := by
  induction w using schedule.induct with
  | case1 w stuck =>
    rw [schedule_of_none stuck]
    exact w.pairwise_keys
  | case2 w node next _ _ _ ih =>
    rw [schedule_of_some next]
    exact ih

theorem mem_left_iff : i ∈ w.schedule.2 ↔ i ∈ w.keys ∧ i ∉ w.schedule.1 := by
  rw [mem_keys_iff w]
  constructor
  · intro left
    exact ⟨.inr left, fun taken => not_mem_left w taken left⟩
  · rintro ⟨either, never⟩
    exact either.resolve_left never

end Waiting

namespace Order

theorem nodes_ofEdges (edges : Waiting) : (ofEdges edges).nodes = (Waiting.ofEdges edges).schedule.1 := by
  rw [ofEdges_eq]

/-- The schedule leaves over what is missing in it, in ascending order. -/
theorem left_ofEdges (edges : Waiting) :
    (Waiting.ofEdges edges).schedule.2 =
      (edges.nodes.filter fun node => node ∉ (ofEdges edges).nodes).toList := by
  refine (Waiting.pairwise_left _).eq_of_mem_iff (SortedSet.sorted _) fun {node} => ?_
  rw [← SortedSet.mem_def, SortedSet.mem_filter, decide_eq_true_iff, nodes_ofEdges, ← Waiting.mem_keys_ofEdges]
  exact Waiting.mem_left_iff

/--
Whatever the edges are, the order has no node twice and each node after all that it depends on, and a node is in
it just if no cycle is reached from that node along its dependencies. The nodes that are not, if there are any,
are named in ascending order by the one complaint, which is an error. So without cycles the order goes through
all nodes.
-/
theorem scheduled_iff_no_cycle_below (edges : Waiting) :
    let order := ofEdges edges
    let missing := edges.nodes.filter fun node => node ∉ order.nodes
    order.nodes.Nodup ∧
      (∀ node, node ∈ order.nodes ↔ node ∈ edges.nodes ∧
        ¬ ∃ member, ReflTransGen edges.Waits node member ∧ TransGen edges.Waits member member) ∧
      (∀ node ∈ order.nodes, ∀ dependency, edges.Waits node dependency →
        dependency ∈ order.nodes ∧ order.nodes.idxOf dependency < order.nodes.idxOf node) ∧
      order.events = (if missing.isEmpty then [] else [.cycleUnscheduled missing.toList]) ∧
      (∀ event ∈ order.events, event.level = .error) ∧
      ((∀ node, ¬ TransGen edges.Waits node node) → order.nodes.Perm edges.nodes.toList ∧ order.events = []) := by
  intro order missing
  have same := Waiting.waits_ofEdges_eq edges
  have scheduled (node : Nat) : node ∈ order.nodes ↔ node ∈ edges.nodes ∧
      ¬ ∃ member, ReflTransGen edges.Waits node member ∧ TransGen edges.Waits member member := by
    rw [← same, ← Waiting.mem_keys_ofEdges, nodes_ofEdges]
    exact Waiting.mem_schedule_iff (Waiting.closed_ofEdges edges)
  have complaint : order.events = if missing.isEmpty then [] else [.cycleUnscheduled missing.toList] := by
    rw [SortedSet.isEmpty, ← left_ofEdges]
    exact congrArg Order.events (ofEdges_eq edges)
  have once : order.nodes.Nodup := by
    rw [nodes_ofEdges]
    exact Waiting.nodup_schedule _
  refine ⟨once, scheduled, fun node taken dependency waits => ?_, complaint, ?_, fun acyclic => ?_⟩
  · rw [← same] at waits
    rw [nodes_ofEdges] at taken ⊢
    exact Waiting.idxOf_lt_of_waits taken waits
  · rw [complaint]
    split
    · exact List.forall_mem_nil _
    · exact List.forall_mem_singleton.mpr rfl
  · have all (node : Nat) : node ∈ order.nodes ↔ node ∈ edges.nodes := by
      rw [scheduled]
      refine and_iff_left ?_
      rintro ⟨member, -, cycle⟩
      exact acyclic member cycle
    have none : missing.isEmpty = true := by
      rw [SortedSet.isEmpty_iff]
      intro node left
      obtain ⟨known, never⟩ := SortedSet.mem_filter.mp left
      exact of_decide_eq_true never ((all node).mpr known)
    refine ⟨(List.perm_ext_iff_of_nodup once edges.nodes.sorted.nodup).mpr all, ?_⟩
    rw [complaint, if_pos none]

/-- Two nodes wait for each other, and a third for one of them. -/
example :
    let edges : Waiting := .ofList [(0, ∅), (1, .ofList [2]), (2, .ofList [1]), (3, .ofList [0, 2])]
    (ofEdges edges).nodes = [0] ∧ (ofEdges edges).events = [.cycleUnscheduled [1, 2, 3]] := by
  constructor <;> cbv

end Order

end Conformance
