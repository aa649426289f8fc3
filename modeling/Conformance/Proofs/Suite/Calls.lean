import Mathlib.Data.List.Permutation
import Conformance.Proofs.Suite.Trace

/-!
# What holds at every call

The chain of a call is just the stack of calls that are open when it is made: a test is on the chain if and only
if it is being instantiated, which is as long as it was met and has no edges (`Call.Placed.mem_chain_iff`). So a
test that a call has met before and that is not on the chain is done with, and so is all that it leads to
(`Call.Placed.closed_below`). `calls_of_selection` says this of every call of building, along with how many calls
are open at most and how often a fixture is made.
-/

namespace Conformance

open Relation

namespace Builder

variable {σ : Type} {r : Registry} {setup : TestSetup} {fixtures : Fixtures} {roots stack tests : List TestDefinition}
  {b : Builder σ} {d t u : TestDefinition} {c : Call σ} {limit : Nat}

/-- A call that is made while the tests of the stack are under way. -/
structure Call.Placed (r : Registry) (fixtures : Fixtures) (roots stack : List TestDefinition) (c : Call σ) :
    Prop where
  chain : c.chain = stack.map TestDefinition.name
  trail : Trail r fixtures roots (stack ++ [c.test])
  coherent : c.builder.Coherent r fixtures roots stack

namespace Call.Placed

theorem nodup (placed : c.Placed r fixtures roots stack) : c.chain.Nodup := by
  have once := placed.trail.nodup
  rw [List.map_append] at once
  rw [placed.chain]
  exact once.of_append_left

theorem fresh (placed : c.Placed r fixtures roots stack) : c.test.name ∉ c.chain := by
  rw [placed.chain]
  intro again
  obtain ⟨t, member, same⟩ := List.mem_map.mp again
  exact placed.trail.name_ne t member same

theorem length_lt (placed : c.Placed r fixtures roots stack) : c.chain.length < r.size := by
  have once : (stack ++ [c.test]).Nodup := placed.trail.nodup.of_map _
  have fits := (List.subperm_of_subset once placed.trail.registered).length_le
  rw [List.length_append, List.length_singleton] at fits
  rw [placed.chain, List.length_map]
  exact fits

theorem mem_chain_iff (placed : c.Placed r fixtures roots stack) {name : String} :
    name ∈ c.chain ↔ ∃ i, c.builder.memo.get? name = some i ∧ c.builder.graph.edges.get? i = none := by
  rw [placed.chain, List.mem_map]
  constructor
  · rintro ⟨t, member, rfl⟩
    obtain ⟨i, met⟩ := placed.coherent.entered t member
    obtain ⟨n, found, named⟩ := (placed.coherent.memo _ i).mp met
    exact ⟨i, met, (placed.coherent.unclosed i n found).mpr ⟨t, member, named.symm⟩⟩
  · rintro ⟨i, met, without⟩
    obtain ⟨n, found, rfl⟩ := (placed.coherent.memo _ i).mp met
    exact (placed.coherent.unclosed i n found).mp without

/-- A test that was met before has the edges of a test that is done with. -/
theorem linked (placed : c.Placed r fixtures roots stack) (built : r.Built) {i : Nat}
    (met : c.builder.memo.get? c.test.name = some i) :
    ∃ targets, c.builder.graph.edges.get? i = some targets ∧ c.builder.Linked r fixtures c.test targets := by
  obtain ⟨j, targets, met', edges⟩ := placed.coherent.closed met placed.trail.name_ne
  obtain rfl : j = i := Option.some.inj (met'.symm.trans met)
  obtain ⟨n, found, linked⟩ := placed.coherent.edges j targets edges
  have same := found.symm.trans (placed.coherent.node built met placed.trail.registered_last)
  rw [Option.some.inj same] at linked
  exact ⟨targets, edges, linked⟩

theorem closed_below (placed : c.Placed r fixtures roots stack) (built : r.Built) {i : Nat}
    (met : c.builder.memo.get? c.test.name = some i) (path : ReflTransGen (r.DependsOn fixtures) c.test u) :
    c.builder.Closed u.name := by
  have closed := placed.coherent.closed met placed.trail.name_ne
  exact placed.coherent.closed_below built placed.trail.registered_last closed path

end Call.Placed

/-! ### The trace of every step -/

section Steps

variable [Transport σ]

/-- The calls take the course of `instantiate` for all that the last test of the trail depends on. -/
def StandsIn (r : Registry) (setup : TestSetup) (fixtures : Fixtures) (roots tests : List TestDefinition)
    (t : TestDefinition) (call : TestDefinition → Builder σ → Option (Traced σ Nat)) : Prop :=
  ∀ (u : TestDefinition) (b : Builder σ), r.DependsOn fixtures t u →
    u.name ∉ (tests ++ [t]).map TestDefinition.name → b.Coherent r fixtures roots (tests ++ [t]) →
    (instantiate r setup ((tests ++ [t] ++ [u]).map TestDefinition.name) u b).2.Agrees fixtures →
    Follows (Call.Placed r fixtures roots) (tests ++ [t]) b
      (instantiate r setup ((tests ++ [t] ++ [u]).map TestDefinition.name) u b) (call u b)

/-- Whatever the last test of a trail depends on can be brought in, unless it is on the trail. -/
theorem continues (built : r.Built) (trail : Trail r fixtures roots (tests ++ [t])) :
    Continues σ r setup fixtures roots tests t :=
  fun _ _ depends apart coherent agrees => instantiate_sound built (trail.snoc built depends apart) coherent agrees

theorem resolveBy_follows {call : TestDefinition → Builder σ → Option (Traced σ Nat)} (built : r.Built)
    (trail : Trail r fixtures roots (tests ++ [t])) (standsIn : StandsIn r setup fixtures roots tests t call)
    {names : List String} (named : ∀ name ∈ names, ∃ u, r.DependsOn fixtures t u ∧ u.name = name)
    (targets : SortedSet Nat) (coherent : b.Coherent r fixtures roots (tests ++ [t]))
    (agrees : (resolve r setup ((tests ++ [t]).map TestDefinition.name) names targets b).2.Agrees fixtures) :
    Follows (Call.Placed r fixtures roots) (tests ++ [t]) b
      (resolve r setup ((tests ++ [t]).map TestDefinition.name) names targets b)
      (resolveBy call r ((tests ++ [t]).map TestDefinition.name) names targets b) := by
  induction names generalizing targets b with
  | nil =>
    rw [resolve, resolveBy]
    exact .stop rfl
  | cons name rest ih =>
    obtain ⟨u, depends, rfl⟩ := named _ List.mem_cons_self
    have required := built.require_name (depends.registered built)
    by_cases again : u.name ∈ (tests ++ [t]).map TestDefinition.name
    · rw [resolve_cycle again, resolveBy, if_pos again]
      exact .stop rfl
    · have first := standsIn u b depends again coherent
      have below : Continues σ r setup fixtures roots tests t := continues built trail
      have sound := below u b depends again coherent
      rw [List.map_append, List.map_singleton] at first sound
      have agrees' := agrees.of_prefix (made_known again required)
      replace first := first agrees'
      replace sound := sound agrees'
      rw [resolve_known again required] at agrees ⊢
      rw [resolveBy, if_neg again, required]
      revert first sound agrees
      obtain ⟨_ | index, b'⟩ := instantiate r setup ((tests ++ [t]).map TestDefinition.name ++ [u.name]) u b
      · exact fun _ first _ => first.fail
      · intro agrees first (sound : Instantiated _ _ _ _ _ _ _ _)
        exact first.goOn (ih (fun name member => named name (List.mem_cons_of_mem _ member)) _ sound.coherent agrees)

omit [Transport σ] in
theorem unvisited_singleton_lt (built : r.Built) (registered : d ∈ r.definitions) :
    r.unvisited [d.name] < r.size := by
  have all : r.unvisited [] = r.size := by simp [Registry.unvisited, Registry.size]
  rw [← all]
  exact Registry.unvisited_lt List.not_mem_nil (built.require_name registered)

theorem instantiateWithin_follows (built : r.Built) (trail : Trail r fixtures roots (tests ++ [d]))
    (coherent : b.Coherent r fixtures roots tests)
    (agrees : (instantiate r setup ((tests ++ [d]).map TestDefinition.name) d b).2.Agrees fixtures)
    (enough : r.unvisited ((tests ++ [d]).map TestDefinition.name) < limit) :
    Follows (Call.Placed r fixtures roots) tests b (instantiate r setup ((tests ++ [d]).map TestDefinition.name) d b)
      (instantiateWithin r setup limit (tests.map TestDefinition.name) d b) := by
  -- With every call that is opened, the limit and the number of tests off the path go down together.
  induction limit generalizing tests d b with
  | zero => exact absurd enough (Nat.not_lt_zero _)
  | succ limit ih =>
    have placed : Call.Placed r fixtures roots tests ⟨tests.map TestDefinition.name, d, b⟩ := ⟨rfl, trail, coherent⟩
    cases fresh : b.memo.get? d.name with
    | some i =>
      rw [instantiate_met fresh, instantiateWithin_met fresh]
      refine .call placed ?_ (.stop rfl)
      rw [made?_met (c := ⟨tests.map TestDefinition.name, d, b⟩) fresh, Option.toList_none, List.append_nil]
    | none =>
      have entered := built_visit (c := ⟨tests.map TestDefinition.name, d, b⟩) setup fresh
      have node := agrees.node (made_enter_instantiate fresh)
      cases found : r.dependenciesOf (b.node setup d) with
      | error error =>
        rw [instantiate_unresolved fresh found, instantiateWithin_unresolved fresh found]
        exact .call placed entered (.stop rfl)
      | ok dependencies =>
        have agrees' : (resolve r setup ((tests ++ [d]).map TestDefinition.name) dependencies.toList ∅
            (b.visit setup d)).2.Agrees fixtures := by
          rw [Agrees, ← made_resolved fresh found]
          exact agrees
        rw [instantiate_resolved fresh found, instantiateWithin_resolved fresh found]
        have visited := coherent.visit fresh trail.registered_last trail.reached_last node
        obtain ⟨-, members⟩ := Registry.dependenciesOf_eq_ok (node ▸ found)
        have standsIn : StandsIn r setup fixtures roots tests d
            (instantiateWithin r setup limit ((tests ++ [d]).map TestDefinition.name) :
              TestDefinition → Builder σ → Option (Traced σ Nat)) := by
          intro u b depends apart coherent' agrees
          have fewer := unvisited_snoc_lt built depends apart
          exact ih (trail.snoc built depends apart) coherent' agrees (by omega)
        have inner := resolveBy_follows built trail standsIn (fun name => (members name).mp) ∅ visited agrees'
        refine .call placed entered ?_
        have path : (tests ++ [d]).map TestDefinition.name = tests.map TestDefinition.name ++ [d.name] :=
          List.map_append
        rw [path] at inner ⊢
        revert inner
        obtain ⟨_ | targets, b'⟩ := resolve r setup (tests.map TestDefinition.name ++ [d.name])
          dependencies.toList ∅ (b.visit setup d)
        · exact .fail
        · intro inner
          refine inner.goOn ?_
          exact .stop rfl

theorem selectAllWithin_follows (built : r.Built) (setup : TestSetup) {selected : List TestDefinition}
    (registered : ∀ d ∈ selected, d ∈ r.definitions) (within : selected ⊆ roots)
    (coherent : b.Coherent r fixtures roots []) (agrees : (selectAll r setup selected b).2.Agrees fixtures) :
    Follows (Call.Placed r fixtures roots) [] b (selectAll r setup selected b)
      (selectAllWithin r setup r.size selected b) := by
  induction selected generalizing b with
  | nil => exact .stop rfl
  | cons d rest ih =>
    obtain ⟨inRoots, restWithin⟩ := List.cons_subset.mp within
    have known := registered d List.mem_cons_self
    have trail : Trail r fixtures roots ([] ++ [d]) := .single known inRoots
    have sound (agrees : (instantiate r setup [d.name] d b).2.Agrees fixtures) :
        Sound r fixtures roots (Instantiated r fixtures roots [] d b) (instantiate r setup [d.name] d b) :=
      instantiate_sound built trail coherent agrees
    have first (agrees : (instantiate r setup [d.name] d b).2.Agrees fixtures) :
        Follows (Call.Placed r fixtures roots) [] b (instantiate r setup [d.name] d b)
          (instantiateWithin r setup r.size [] d b) :=
      instantiateWithin_follows built trail coherent agrees (unvisited_singleton_lt built known)
    rw [selectAll] at agrees ⊢
    rw [selectAllWithin]
    revert first sound agrees
    obtain ⟨_ | i, b'⟩ := instantiate r setup [d.name] d b
    · exact fun agrees _ first => (first agrees).fail
    · intro agrees sound first
      have agrees' := agrees.of_prefix (made_selectAll b' rest)
      have visited : Instantiated _ _ _ _ _ _ _ _ := sound agrees'
      exact (first agrees').goOn
        (ih (fun d member => registered d (List.mem_cons_of_mem _ member)) restWithin visited.coherent agrees)

end Steps

end Builder

namespace DependencyGraph

variable {σ : Type} [Transport σ] {r : Registry} {selected : List TestDefinition}

theorem made_build (setup : TestSetup) (equipment : Equipment σ) :
    (build r setup selected equipment).made = (Builder.selectAll r setup selected (.start equipment)).2.made := by
  rw [build]

/--
However the registered tests depend on one another, building comes to its end with no more calls open at a time
than there are registered tests. No factory is called twice, whether or not a graph comes of it: one is called in
just those calls whose test was not met before, and nothing else is done to the equipment. When a call is made, its
chain names the tests whose calls are open. These are different tests, each of which depends on the next and the
last on the test of the call, and they are just the tests that were met and have no edges. If the test of a call
was met before, it is done with: it has its node and edges to just the nodes of what it depends on, and everything
that it leads to has edges too.
-/
theorem calls_of_selection (built : r.Built) (setup : TestSetup) (equipment : Equipment σ)
    (registered : ∀ d ∈ selected, d ∈ r.definitions) :
    let construction := build r setup selected equipment
    let fixtures := construction.fixtures
    construction.built.Nodup ∧
    (∃ w, TestDefinition.makeAll setup (construction.made.map TestNode.definition) (.open equipment) =
      (construction.made, w) ∧ construction.equipment = w.toEquipment) ∧
    ∃ moves : List (Builder.Move σ),
      Builder.selectAllWithin r setup r.size selected (.start equipment) =
        some ⟨Builder.selectAll r setup selected (.start equipment), moves⟩ ∧
      construction.built = moves.filterMap Builder.Move.made? ∧
      Builder.openAfter [] moves = [] ∧
      ∀ before c after, moves = before ++ .call c :: after →
        let underWay := Builder.openAfter [] before
        c.chain = underWay.map TestDefinition.name ∧ c.chain.length < r.size ∧ c.chain.Nodup ∧
        (underWay ++ [c.test]).IsChain (r.DependsOn fixtures) ∧
        (∀ name, name ∈ c.chain ↔
          ∃ i, c.builder.memo.get? name = some i ∧ c.builder.graph.edges.get? i = none) ∧
        ∀ i, c.builder.memo.get? c.test.name = some i →
          c.test.name ∉ c.chain ∧ c.builder.graph.nodes[i]? = some (.ofDefinition fixtures c.test) ∧
          (∃ targets, c.builder.graph.edges.get? i = some targets ∧
            ∀ j, j ∈ targets ↔ ∃ u, r.DependsOn fixtures c.test u ∧ c.builder.memo.get? u.name = some j) ∧
          ∀ u, ReflTransGen (r.DependsOn fixtures) c.test u → c.builder.Closed u.name := by
  intro construction fixtures
  have agrees : (Builder.selectAll r setup selected (.start equipment)).2.Agrees fixtures := by
    rw [Builder.Agrees, ← made_build]
    exact agrees_fixtures r setup selected equipment
  obtain ⟨moves, traced, course⟩ :=
    Builder.selectAllWithin_follows built setup registered (List.Subset.refl selected) (.start equipment) agrees
  obtain ⟨w, worked, left, -⟩ := exists_workshop r setup selected equipment
  refine ⟨built_nodup r setup selected equipment, ⟨w, worked, left⟩, moves, traced, ?_, course.returns, ?_⟩
  · rw [Construction.built, made_build]
    exact course.made.trans (List.nil_append _)
  · rintro before c after rfl
    have placed := course.calls.at_call
    refine ⟨placed.chain, placed.length_lt, placed.nodup, placed.trail.chain, fun name => placed.mem_chain_iff,
      fun i met => ⟨placed.fresh, placed.coherent.node built met placed.trail.registered_last, ?_,
        fun u => placed.closed_below built met⟩⟩
    obtain ⟨targets, edges, linked⟩ := placed.linked built met
    exact ⟨targets, edges, linked.targets⟩

/-- A test that two others name is met again off the chain, and one that names its own ancestor ends the building. -/
theorem calls_of_selection_of_loop :
    let base : TestDefinition := ⟨"Base", "", ∅, ∅, ∅, fun _ => .ofBody (.done .passed)⟩
    let left : TestDefinition := ⟨"Left", "", ∅, ∅, .ofList ["Base"], fun _ => .ofBody (.done .passed)⟩
    let loop : TestDefinition := ⟨"Loop", "", ∅, ∅, .ofList ["Top"], fun _ => .ofBody (.done .passed)⟩
    let top : TestDefinition :=
      ⟨"Top", "", ∅, ∅, .ofList ["Base", "Left", "Loop"], fun _ => .ofBody (.done .passed)⟩
    let r := (Registry.empty.registerAll [base, left, loop, top] 0).registry
    let setup : TestSetup := ⟨1, .zero, .zero, .empty⟩
    let equipment : Equipment Script := ⟨.ofReplies [], 0, .empty, ∅⟩
    r.Built ∧ (∀ d ∈ [top], d ∈ r.definitions) ∧
      (build r setup [top] equipment).result = .error (.circularDependency ["Top", "Loop"]) ∧
      (build r setup [top] equipment).built = ["Top", "Base", "Left", "Loop"] ∧
      ∃ moves : List (Builder.Move Script),
        moves.filterMap (fun | .call c => some (c.chain, c.test.name) | .back => none) =
          [([], "Top"), (["Top"], "Base"), (["Top"], "Left"), (["Top", "Left"], "Base"), (["Top"], "Loop")] ∧
        ∀ before c after, moves = before ++ .call c :: after →
          c.chain = (Builder.openAfter [] before).map TestDefinition.name ∧ c.chain.length < 4 := by
  intro base left loop top r setup equipment
  have built : r.Built := .registerAll .empty _ _
  have definitions : r.definitions = [base, left, loop, top] := by
    subst r
    cbv
  have registered : ∀ d ∈ [top], d ∈ r.definitions := by simp [definitions]
  have failed : (build r setup [top] equipment).result = .error (.circularDependency ["Top", "Loop"]) := by
    subst r
    cbv
  have made : (build r setup [top] equipment).built = ["Top", "Base", "Left", "Loop"] := by
    subst r
    cbv
  have calls : (Builder.selectAllWithin r setup r.size [top] (.start equipment)).map (fun traced =>
      traced.moves.filterMap (fun | .call c => some (c.chain, c.test.name) | .back => none)) =
        some [([], "Top"), (["Top"], "Base"), (["Top"], "Left"), (["Top", "Left"], "Base"), (["Top"], "Loop")] := by
    subst r
    cbv
  obtain ⟨-, -, moves, traced, -, -, atCalls⟩ := calls_of_selection built setup equipment registered
  rw [traced] at calls
  refine ⟨built, registered, failed, made, moves, Option.some.inj calls, fun before c after split => ?_⟩
  obtain ⟨chain, short, -⟩ := atCalls before c after split
  have size : r.size = 4 := congrArg List.length definitions
  exact ⟨chain, size ▸ short⟩

end DependencyGraph

end Conformance
