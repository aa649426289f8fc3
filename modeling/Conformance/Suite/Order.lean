import Conformance.Event
import Conformance.SortedMap
import Conformance.SortedSet

/-!
The order of tests. Nodes whose dependencies have all been taken are ready, and the least of them is
taken next; nodes that a cycle holds back are never taken.
-/

namespace Conformance

/-- For each node that has not been taken, those of its dependencies that have not been taken. -/
abbrev Waiting := SortedMap Nat (SortedSet Nat)

namespace Waiting

/-- Adds the nodes that are only named as dependencies. -/
def ofEdges (edges : Waiting) : Waiting :=
  (edges.values.flatMap SortedSet.toList).foldl
    (fun (w : Waiting) node => if w.contains node then w else w.insert node ∅) edges

end Waiting

/-- The nodes that are ready to be taken, apart from those that still wait for others. -/
structure Queue where
  remaining : Waiting
  ready : SortedSet Nat

namespace Queue

/-- Nodes that wait for nothing are ready from the start. -/
def ofWaiting (w : Waiting) : Queue where
  remaining := w.filter fun _ deps => !deps.isEmpty
  ready := .ofList (w.filter fun _ deps => deps.isEmpty).keys

/-- Whether nothing is left to wait for once the node has been taken. -/
def unblocks (node : Nat) (deps : SortedSet Nat) : Bool := node ∈ deps && (deps.erase node).isEmpty

/-- Takes a ready node, which may make others ready. -/
def take (q : Queue) (node : Nat) : Queue where
  remaining := (q.remaining.filter fun _ deps => !unblocks node deps).mapValues fun deps => deps.erase node
  ready := (q.ready.erase node).insertMany (q.remaining.filter fun _ deps => unblocks node deps).keys

def size (q : Queue) : Nat := q.remaining.size + q.ready.size

/-- A node that becomes ready no longer remains, so taking a node leaves fewer of them. -/
theorem size_take_lt {q : Queue} {node : Nat} (h : q.ready.toList.head? = some node) : (q.take node).size < q.size := by
  have popped := SortedSet.size_erase_lt (SortedSet.mem_def.mpr (List.mem_of_head? h))
  have pushed := (q.ready.erase node).size_insertMany_le (q.remaining.filter fun _ deps => unblocks node deps).keys
  have moved := q.remaining.size_filter_add fun _ deps => unblocks node deps
  simp only [SortedMap.length_keys] at pushed
  simp only [size, take, SortedMap.size_mapValues]
  omega

/-- The nodes in the order in which they are taken, and those that never are. -/
def schedule (q : Queue) : List Nat × List Nat :=
  match _next : q.ready.toList.head? with
  | none => ([], q.remaining.keys)
  | some node =>
    let (order, unscheduled) := (q.take node).schedule
    (node :: order, unscheduled)
termination_by q.size
decreasing_by exact size_take_lt _next

end Queue

structure Order where
  nodes : List Nat
  events : List Event

namespace Order

/-- The order in which every node comes after its dependencies and the least comes first. -/
def ofEdges (edges : SortedMap Nat (SortedSet Nat)) : Order :=
  let (order, unscheduled) := (Queue.ofWaiting (Waiting.ofEdges edges)).schedule
  ⟨order, if unscheduled.isEmpty then [] else [.cycleUnscheduled unscheduled]⟩

end Order

end Conformance
