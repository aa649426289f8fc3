import Mathlib.Data.List.TakeWhile
import Conformance.Proofs.Suite.Dependency
import Conformance.Proofs.Suite.Making

/-!
# Builders between two steps

`Builder.Coherent` is what holds of a builder while the tests of a stack are under way: the memo, the
nodes and the edges are about the same tests, and the nodes without edges are those of the stack.
`Coherent.visit` and `Coherent.setEdges` push a test and pop it. `Trail.fault` is why a test that is
met again on its own trail closes a cycle.
-/

namespace Conformance

open Relation

namespace Builder

variable {σ : Type}

/-- A later builder has the nodes of an earlier one in their places, and all its edges. -/
structure Extends (b b' : Builder σ) : Prop where
  nodes : b.graph.nodes <+: b'.graph.nodes
  memo : ∀ {name : String} {i : Nat}, b.memo.get? name = some i → b'.memo.get? name = some i
  edges : ∀ {i : Nat} {targets : SortedSet Nat},
    b.graph.edges.get? i = some targets → b'.graph.edges.get? i = some targets

theorem Extends.refl (b : Builder σ) : b.Extends b := ⟨List.prefix_refl _, id, id⟩

theorem Extends.trans {b b' b'' : Builder σ} (first : b.Extends b') (second : b'.Extends b'') : b.Extends b'' :=
  ⟨first.nodes.trans second.nodes, second.memo ∘ first.memo, second.edges ∘ first.edges⟩

/-- The test of that name is in the graph with its edges. -/
def Closed (b : Builder σ) (name : String) : Prop :=
  ∃ i targets, b.memo.get? name = some i ∧ b.graph.edges.get? i = some targets

theorem Closed.extend {b b' : Builder σ} {name : String} (closed : b.Closed name) (extends_ : b.Extends b') :
    b'.Closed name := by
  obtain ⟨i, targets, met, edges⟩ := closed
  exact ⟨i, targets, extends_.memo met, extends_.edges edges⟩

section Invariant

variable (r : Registry) (fixtures : Fixtures) (roots : List TestDefinition)

/-- The targets are the places of all that the test depends on, and nothing below the test is open. -/
structure Linked (b : Builder σ) (d : TestDefinition) (targets : SortedSet Nat) : Prop where
  settles : r.Settles fixtures d
  targets : ∀ j, j ∈ targets ↔ ∃ u, r.DependsOn fixtures d u ∧ b.memo.get? u.name = some j
  closed : ∀ u, r.DependsOn fixtures d u → b.Closed u.name

/-- What holds of a builder between two steps while the tests of the stack are under way. -/
structure Coherent (stack : List TestDefinition) (b : Builder σ) : Prop where
  memo : ∀ name i, b.memo.get? name = some i ↔ ∃ n, b.graph.nodes[i]? = some n ∧ n.name = name
  nodes : ∀ n ∈ b.graph.nodes, ∃ d ∈ r.definitions, r.Reached fixtures roots d ∧ n = .ofDefinition fixtures d
  made : b.made = b.graph.nodes
  entered : ∀ t ∈ stack, ∃ i, b.memo.get? t.name = some i
  unclosed : ∀ i n, b.graph.nodes[i]? = some n → (b.graph.edges.get? i = none ↔ ∃ t ∈ stack, t.name = n.name)
  edges : ∀ i targets, b.graph.edges.get? i = some targets →
    ∃ n, b.graph.nodes[i]? = some n ∧ b.Linked r fixtures n.definition targets

/-- The tests that lead from the selection to the one that is under way. -/
structure Trail (tests : List TestDefinition) : Prop where
  chain : tests.IsChain (r.DependsOn fixtures)
  nodup : (tests.map TestDefinition.name).Nodup
  registered : ∀ t ∈ tests, t ∈ r.definitions
  reached : ∀ t ∈ tests, r.Reached fixtures roots t

/-- A step of the builder did what it was to do, or failed for a fault of the suite. -/
def Sound {α : Type} (Done : α → Builder σ → Prop) : Except SuiteError α × Builder σ → Prop
  | (.ok a, b) => Done a b
  | (.error error, b) => r.Fault fixtures roots error ∧ ∀ name ∈ error.blamed, name ∈ b.built

/-- The fixtures that have been made are those that are given. -/
def Agrees (b : Builder σ) : Prop := ∀ n ∈ b.made, n = .ofDefinition fixtures n.definition

end Invariant

variable {r : Registry} {fixtures : Fixtures} {roots stack : List TestDefinition} {b b' : Builder σ}
  {d t u : TestDefinition}

theorem Linked.extend {targets : SortedSet Nat} (linked : b.Linked r fixtures d targets) (extends_ : b.Extends b') :
    b'.Linked r fixtures d targets := by
  refine ⟨linked.settles, fun j => ?_, fun u depends => (linked.closed u depends).extend extends_⟩
  rw [linked.targets]
  refine exists_congr fun u => and_congr_right fun depends => ⟨extends_.memo, fun met => ?_⟩
  obtain ⟨i, _, met', _⟩ := linked.closed u depends
  have same := (extends_.memo met').symm.trans met
  rw [met', Option.some.inj same]

/-! ### Steps that keep a builder coherent -/

theorem Coherent.start (equipment : Equipment σ) : (Builder.start equipment).Coherent r fixtures roots [] := by
  refine ⟨?_, ?_, rfl, ?_, ?_, ?_⟩ <;>
    simp [Builder.start, DependencyGraph.empty, EmptyCollection.emptyCollection]

theorem Coherent.names_nodup (coherent : b.Coherent r fixtures roots stack) :
    (b.graph.nodes.map TestNode.name).Nodup := by
  rw [List.nodup_iff_getElem?_ne_getElem?]
  intro i j less within same
  simp only [List.getElem?_map] at same
  rw [List.length_map] at within
  have atI := List.getElem?_eq_getElem (Nat.lt_trans less within)
  have atJ := List.getElem?_eq_getElem within
  rw [atI, atJ, Option.map_some, Option.map_some, Option.some.injEq] at same
  have metI := (coherent.memo _ i).mpr ⟨_, atI, same⟩
  have metJ := (coherent.memo _ j).mpr ⟨_, atJ, rfl⟩
  have equal : i = j := Option.some.inj (metI.symm.trans metJ)
  omega

theorem Coherent.node (coherent : b.Coherent r fixtures roots stack) (built : r.Built) {i : Nat}
    (met : b.memo.get? d.name = some i) (registered : d ∈ r.definitions) :
    b.graph.nodes[i]? = some (.ofDefinition fixtures d) := by
  obtain ⟨n, found, named⟩ := (coherent.memo _ i).mp met
  obtain ⟨d', member, -, rfl⟩ := coherent.nodes n (List.mem_of_getElem? found)
  rw [found, built.eq_of_name registered member named.symm]

theorem Coherent.settles (coherent : b.Coherent r fixtures roots stack) (built : r.Built)
    (registered : d ∈ r.definitions) (closed : b.Closed d.name) : r.Settles fixtures d := by
  obtain ⟨i, targets, met, edges⟩ := closed
  obtain ⟨n, found, linked⟩ := coherent.edges i targets edges
  have same := found.symm.trans (coherent.node built met registered)
  rw [Option.some.inj same] at linked
  exact linked.settles

/-- The fixture of a test that is under way has been made. -/
theorem Coherent.mem_built (coherent : b.Coherent r fixtures roots stack) (member : t ∈ stack) : t.name ∈ b.built := by
  obtain ⟨i, met⟩ := coherent.entered t member
  obtain ⟨n, found, named⟩ := (coherent.memo _ i).mp met
  rw [built, coherent.made, ← named]
  exact List.mem_map_of_mem (List.mem_of_getElem? found)

/-- A test that was met and is not under way is closed. -/
theorem Coherent.closed (coherent : b.Coherent r fixtures roots stack) {name : String} {i : Nat}
    (met : b.memo.get? name = some i) (notOpen : ∀ t ∈ stack, t.name ≠ name) : b.Closed name := by
  obtain ⟨n, found, rfl⟩ := (coherent.memo _ i).mp met
  cases edges : b.graph.edges.get? i with
  | none =>
    obtain ⟨t, member, same⟩ := (coherent.unclosed i n found).mp edges
    exact absurd same (notOpen t member)
  | some targets => exact ⟨i, targets, met, edges⟩

/-- All that a closed test leads to is closed. -/
theorem Coherent.closed_below (coherent : b.Coherent r fixtures roots stack) (built : r.Built)
    (registered : d ∈ r.definitions) (closed : b.Closed d.name)
    (path : ReflTransGen (r.DependsOn fixtures) d u) : b.Closed u.name := by
  have shut : u ∈ r.definitions ∧ b.Closed u.name := by
    induction path with
    | refl => exact ⟨registered, closed⟩
    | @tail t u _ depends ih =>
      obtain ⟨known, i, targets, met, edges⟩ := ih
      obtain ⟨n, found, linked⟩ := coherent.edges i targets edges
      have same := found.symm.trans (coherent.node built met known)
      rw [Option.some.inj same] at linked
      exact ⟨depends.registered built, linked.closed u depends⟩
  exact shut.2

/-- No node has the name of a test that was not met. -/
theorem Coherent.name_ne (coherent : b.Coherent r fixtures roots stack) (fresh : b.memo.get? d.name = none)
    {i : Nat} {n : TestNode} (found : b.graph.nodes[i]? = some n) : n.name ≠ d.name := by
  intro same
  have met := (coherent.memo _ i).mpr ⟨n, found, rfl⟩
  rw [same, fresh] at met
  cases met

theorem Coherent.edges_size (coherent : b.Coherent r fixtures roots stack) :
    b.graph.edges.get? b.graph.size = none := by
  cases edges : b.graph.edges.get? b.graph.size with
  | none => rfl
  | some targets =>
    obtain ⟨n, found, -⟩ := coherent.edges _ _ edges
    rw [DependencyGraph.size, List.getElem?_length] at found
    cases found

theorem Agrees.of_prefix (agrees : b'.Agrees fixtures) (before : b.made <+: b'.made) : b.Agrees fixtures :=
  fun n member => agrees n (before.subset member)

section Visit

variable [Transport σ] {setup : TestSetup}

/-- A test whose fixture is made gets the node that the given fixtures make for it. -/
theorem Agrees.node (agrees : b'.Agrees fixtures) (entered : (b.enter setup d).2.made <+: b'.made) :
    b.node setup d = .ofDefinition fixtures d :=
  agrees _ (entered.subset (List.mem_append_right _ (List.mem_singleton_self _)))

theorem memo_visit (name : String) :
    (b.visit setup d).memo.get? name = if name = d.name then some b.graph.size else b.memo.get? name :=
  SortedMap.get?_insert _ _ _ _

theorem nodes_visit : (b.visit setup d).graph.nodes = b.graph.nodes ++ [b.node setup d] := rfl

theorem getElem?_visit {i : Nat} {n : TestNode} :
    (b.visit setup d).graph.nodes[i]? = some n ↔
      b.graph.nodes[i]? = some n ∨ i = b.graph.size ∧ n = b.node setup d := by
  rw [nodes_visit, DependencyGraph.size]
  grind

theorem extends_visit (setup : TestSetup) (fresh : b.memo.get? d.name = none) : b.Extends (b.visit setup d) := by
  refine ⟨List.prefix_append _ _, fun {name i} met => ?_, id⟩
  rw [memo_visit, if_neg]
  · exact met
  · rintro rfl
    rw [fresh] at met
    cases met

theorem Coherent.memo_visit_iff (coherent : b.Coherent r fixtures roots stack) (fresh : b.memo.get? d.name = none)
    (name : String) (i : Nat) :
    (b.visit setup d).memo.get? name = some i ↔
      ∃ n, (b.visit setup d).graph.nodes[i]? = some n ∧ n.name = name := by
  simp only [memo_visit, getElem?_visit]
  by_cases same : name = d.name
  · subst same
    rw [if_pos rfl]
    constructor
    · intro atEnd
      exact ⟨_, .inr ⟨(Option.some.inj atEnd).symm, rfl⟩, rfl⟩
    · rintro ⟨n, found | ⟨rfl, -⟩, named⟩
      · exact absurd named (coherent.name_ne fresh found)
      · rfl
  · rw [if_neg same, coherent.memo]
    constructor
    · rintro ⟨n, found, named⟩
      exact ⟨n, .inl found, named⟩
    · rintro ⟨n, found | ⟨-, rfl⟩, named⟩
      · exact ⟨n, found, named⟩
      · exact absurd named.symm same

/-- Pushing a test on the stack. -/
theorem Coherent.visit (coherent : b.Coherent r fixtures roots stack) (fresh : b.memo.get? d.name = none)
    (registered : d ∈ r.definitions) (reached : r.Reached fixtures roots d)
    (made : b.node setup d = .ofDefinition fixtures d) :
    (b.visit setup d).Coherent r fixtures roots (stack ++ [d]) := by
  have extends_ := extends_visit setup fresh
  refine ⟨coherent.memo_visit_iff fresh, fun n member => ?_, ?_, fun t member => ?_, fun i n found => ?_,
    fun i targets edges => ?_⟩
  · rcases List.mem_append.mp member with old | last
    · exact coherent.nodes n old
    · exact ⟨d, registered, reached, (List.mem_singleton.mp last).trans made⟩
  · have entered : (b.visit setup d).made = b.made ++ [b.node setup d] := made_enter
    rw [entered, coherent.made, nodes_visit]
  · rcases List.mem_append.mp member with old | last
    · obtain ⟨i, met⟩ := coherent.entered t old
      exact ⟨i, extends_.memo met⟩
    · rw [List.mem_singleton.mp last, memo_visit, if_pos rfl]
      exact ⟨_, rfl⟩
  · rcases getElem?_visit.mp found with old | ⟨rfl, rfl⟩
    · refine (coherent.unclosed i n old).trans (exists_congr fun t => and_congr_left fun named => ?_)
      rw [List.mem_append, List.mem_singleton]
      refine ⟨.inl, fun member => member.resolve_right ?_⟩
      rintro rfl
      exact coherent.name_ne fresh old named.symm
    · exact iff_of_true coherent.edges_size ⟨d, List.mem_append_right _ (List.mem_singleton_self d), rfl⟩
  · obtain ⟨n, found, linked⟩ := coherent.edges i targets edges
    exact ⟨n, getElem?_visit.mpr (.inl found), linked.extend extends_⟩

end Visit

theorem edges_setEdges (i j : Nat) (targets : SortedSet Nat) :
    (b.setEdges i targets).graph.edges.get? j = if j = i then some targets else b.graph.edges.get? j :=
  SortedMap.get?_insert _ _ _ _

theorem extends_setEdges {i : Nat} (targets : SortedSet Nat) (open_ : b.graph.edges.get? i = none) :
    b.Extends (b.setEdges i targets) := by
  refine ⟨List.prefix_refl _, id, fun {j targets'} edges => ?_⟩
  rw [edges_setEdges, if_neg]
  · exact edges
  · rintro rfl
    rw [open_] at edges
    cases edges

/-- Popping the test on top of the stack, whose edges are known now. -/
theorem Coherent.setEdges (coherent : b.Coherent r fixtures roots (stack ++ [d])) (built : r.Built)
    {i : Nat} {targets : SortedSet Nat} (met : b.memo.get? d.name = some i) (registered : d ∈ r.definitions)
    (linked : b.Linked r fixtures d targets) (unlike : ∀ t ∈ stack, t.name ≠ d.name) :
    b.Extends (b.setEdges i targets) ∧ (b.setEdges i targets).Coherent r fixtures roots stack := by
  have atI := coherent.node built met registered
  have open_ : b.graph.edges.get? i = none :=
    (coherent.unclosed i _ atI).mpr ⟨d, List.mem_append_right _ (List.mem_singleton_self d), rfl⟩
  have extends_ := extends_setEdges targets open_
  refine ⟨extends_, coherent.memo, coherent.nodes, coherent.made,
    fun t member => coherent.entered t (List.mem_append_left _ member), fun j n found => ?_,
    fun j targets' edges => ?_⟩
  · have found : b.graph.nodes[j]? = some n := found
    rw [edges_setEdges]
    by_cases same : j = i
    · subst same
      have top : n = .ofDefinition fixtures d := Option.some.inj (found.symm.trans atI)
      rw [if_pos rfl, top]
      refine iff_of_false nofun ?_
      rintro ⟨t, member, named⟩
      exact unlike t member named
    · rw [if_neg same]
      refine (coherent.unclosed j n found).trans (exists_congr fun t => and_congr_left fun named => ?_)
      rw [List.mem_append, List.mem_singleton]
      refine ⟨fun member => member.resolve_right ?_, .inl⟩
      rintro rfl
      have met' := (coherent.memo _ j).mpr ⟨n, found, named.symm⟩
      exact same (Option.some.inj (met'.symm.trans met))
  · rw [edges_setEdges] at edges
    split at edges
    · next same =>
      subst same
      rw [← Option.some.inj edges]
      exact ⟨_, atI, linked.extend extends_⟩
    · obtain ⟨n, found, linked'⟩ := coherent.edges j targets' edges
      exact ⟨n, found, linked'.extend extends_⟩

/-! ### The trail to the test that is under way -/

variable {tests : List TestDefinition}

theorem Trail.single (registered : d ∈ r.definitions) (selected : d ∈ roots) : Trail r fixtures roots [d] := by
  refine ⟨.singleton d, List.nodup_singleton _, ?_, ?_⟩
  · simpa using registered
  · simpa using Registry.Reached.root selected

theorem Trail.registered_last (trail : Trail r fixtures roots (tests ++ [d])) : d ∈ r.definitions :=
  trail.registered d (List.mem_append_right _ (List.mem_singleton_self d))

theorem Trail.reached_last (trail : Trail r fixtures roots (tests ++ [d])) : r.Reached fixtures roots d :=
  trail.reached d (List.mem_append_right _ (List.mem_singleton_self d))

theorem Trail.snoc (trail : Trail r fixtures roots (tests ++ [t])) (built : r.Built)
    (depends : r.DependsOn fixtures t u) (fresh : u.name ∉ (tests ++ [t]).map TestDefinition.name) :
    Trail r fixtures roots (tests ++ [t] ++ [u]) := by
  have registered := depends.registered built
  refine ⟨trail.chain.append (.singleton u) ?_, ?_, fun x member => ?_, fun x member => ?_⟩
  · intro x atEnd y atHead
    simp only [List.getLast?_append, List.getLast?_singleton, Option.some_or, Option.mem_def,
      Option.some.injEq, List.head?_cons] at atEnd atHead
    rw [← atEnd, ← atHead]
    exact depends
  · rw [List.map_append, List.nodup_append]
    refine ⟨trail.nodup, List.nodup_singleton _, fun name before other added => ?_⟩
    rw [List.map_singleton, List.mem_singleton] at added
    rintro rfl
    exact fresh (added ▸ before)
  · rcases List.mem_append.mp member with old | new
    · exact trail.registered x old
    · exact List.mem_singleton.mp new ▸ registered
  · rcases List.mem_append.mp member with old | new
    · exact trail.reached x old
    · exact List.mem_singleton.mp new ▸ trail.reached_last.step depends

theorem Trail.name_ne (trail : Trail r fixtures roots (tests ++ [d])) : ∀ t ∈ tests, t.name ≠ d.name := by
  intro t member
  have apart := trail.nodup
  rw [List.map_append, List.nodup_append] at apart
  exact apart.2.2 t.name (List.mem_map_of_mem member) d.name (List.mem_singleton_self _)

/-- A dependency on a test of the trail closes a cycle, which starts at that test. -/
theorem Trail.fault (trail : Trail r fixtures roots (tests ++ [t])) (built : r.Built)
    (depends : r.DependsOn fixtures t u) (again : u.name ∈ (tests ++ [t]).map TestDefinition.name) :
    r.Fault fixtures roots
      (.circularDependency (((tests ++ [t]).map TestDefinition.name).dropWhile (· ≠ u.name))) := by
  have suffix := List.dropWhile_suffix (l := tests ++ [t]) (fun x => decide (x.name ≠ u.name))
  rw [List.dropWhile_map]
  change r.Fault fixtures roots
    (.circularDependency (((tests ++ [t]).dropWhile (fun x => decide (x.name ≠ u.name))).map TestDefinition.name))
  cases cycle : (tests ++ [t]).dropWhile (fun x => decide (x.name ≠ u.name)) with
  | nil =>
    obtain ⟨x, member, named⟩ := List.mem_map.mp again
    have skipped := List.dropWhile_eq_nil_iff.mp cycle x member
    simp [named] at skipped
  | cons first rest =>
    rw [cycle] at suffix
    have found : first.name = u.name := by
      have stopped := List.head?_dropWhile_not (fun x => decide (x.name ≠ u.name)) (tests ++ [t])
      rw [cycle] at stopped
      simpa using stopped
    have member : first ∈ tests ++ [t] := suffix.subset List.mem_cons_self
    have same : first = u :=
      built.eq_of_name (trail.registered first member) (depends.registered built) found
    refine @Registry.Fault.circularDependency _ _ _ first t rest (trail.reached first member)
      (trail.chain.suffix suffix) ?_ ?_ ?_
    · obtain ⟨before, split⟩ := suffix
      have atEnd : (tests ++ [t]).getLast? = some t := List.getLast?_concat
      rw [← split, List.getLast?_append] at atEnd
      simpa using atEnd
    · rw [same]
      exact depends
    · exact trail.nodup.sublist (suffix.sublist.map _)

end Builder

end Conformance
