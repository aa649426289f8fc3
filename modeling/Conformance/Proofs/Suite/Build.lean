import Conformance.Proofs.Suite.Builder
import Conformance.Transport.Script

/-!
# Building the dependency graph

`Builder.instantiate_sound` carries the invariant of the builder through the recursion. A graph that
comes of it `Represents` all that is below the selection, an error is a `Fault`, and `build_ok_iff`
reads off when a graph can be built at all.
-/

namespace Conformance

open Relation

namespace Builder

variable {σ : Type} {r : Registry} {fixtures : Fixtures} {roots : List TestDefinition} {b : Builder σ}
  {tests : List TestDefinition} {d t : TestDefinition}

/-- What bringing a test into the graph comes to. -/
structure Instantiated (r : Registry) (fixtures : Fixtures) (roots stack : List TestDefinition)
    (d : TestDefinition) (b : Builder σ) (i : Nat) (b' : Builder σ) : Prop where
  coherent : b'.Coherent r fixtures roots stack
  extends_ : b.Extends b'
  met : b'.memo.get? d.name = some i
  closed : b'.Closed d.name

/-- What bringing the named tests into the graph comes to. -/
structure Resolved (r : Registry) (fixtures : Fixtures) (roots stack : List TestDefinition)
    (names : List String) (before : SortedSet Nat) (b : Builder σ) (targets : SortedSet Nat) (b' : Builder σ) :
    Prop where
  coherent : b'.Coherent r fixtures roots stack
  extends_ : b.Extends b'
  targets : ∀ j, j ∈ targets ↔ j ∈ before ∨ ∃ name ∈ names, b'.memo.get? name = some j
  closed : ∀ name ∈ names, b'.Closed name

/-- Whatever the last test of the trail depends on can be brought in, unless it is on the trail. -/
def Continues (σ : Type) [Transport σ] (r : Registry) (setup : TestSetup) (fixtures : Fixtures)
    (roots tests : List TestDefinition) (t : TestDefinition) : Prop :=
  ∀ (u : TestDefinition) (b : Builder σ), r.DependsOn fixtures t u →
    u.name ∉ (tests ++ [t]).map TestDefinition.name → b.Coherent r fixtures roots (tests ++ [t]) →
    (instantiate r setup ((tests ++ [t] ++ [u]).map TestDefinition.name) u b).2.Agrees fixtures →
    Sound r fixtures roots (Instantiated r fixtures roots (tests ++ [t]) u b)
      (instantiate r setup ((tests ++ [t] ++ [u]).map TestDefinition.name) u b)

theorem Resolved.cons {stack : List TestDefinition} {names : List String} {before targets : SortedSet Nat}
    {b' b'' : Builder σ} {i : Nat} (visited : Instantiated r fixtures roots stack d b i b')
    (others : Resolved r fixtures roots stack names (before.insert i) b' targets b'') :
    Resolved r fixtures roots stack (d.name :: names) before b targets b'' := by
  refine ⟨others.coherent, visited.extends_.trans others.extends_, fun j => ?_, ?_⟩
  · have met := others.extends_.memo visited.met
    rw [others.targets, SortedSet.mem_insert]
    simp only [List.mem_cons, exists_eq_or_imp, met, Option.some.injEq]
    tauto
  · rintro name (_ | ⟨_, member⟩)
    · exact visited.closed.extend others.extends_
    · exact others.closed name member

theorem Resolved.linked {stack : List TestDefinition} {dependencies : SortedSet String} {targets : SortedSet Nat}
    {b' : Builder σ} (resolved : Resolved r fixtures roots stack dependencies.toList ∅ b targets b') (built : r.Built)
    (resolves : r.Resolves fixtures d)
    (members : ∀ name, name ∈ dependencies ↔ ∃ u, r.DependsOn fixtures d u ∧ u.name = name) :
    b'.Linked r fixtures d targets := by
  have closed : ∀ u, r.DependsOn fixtures d u → b'.Closed u.name :=
    fun u depends => resolved.closed u.name ((members u.name).mpr ⟨u, depends, rfl⟩)
  refine ⟨.intro resolves fun u depends => ?_, fun j => ?_, closed⟩
  · have registered := depends.registered built
    exact resolved.coherent.settles built registered (closed u depends)
  · rw [resolved.targets]
    constructor
    · rintro (outside | ⟨name, member, met⟩)
      · exact absurd outside (SortedSet.not_mem_empty j)
      · obtain ⟨u, depends, rfl⟩ := (members name).mp member
        exact ⟨u, depends, met⟩
    · rintro ⟨u, depends, met⟩
      exact .inr ⟨u.name, (members u.name).mpr ⟨u, depends, rfl⟩, met⟩

/-! ### The recursion -/

section Recursion

variable [Transport σ] {setup : TestSetup}

theorem made_known {path rest : List String} {name : String} {targets : SortedSet Nat} (fresh : name ∉ path)
    (found : r.require name = .ok d) :
    (instantiate r setup (path ++ [name]) d b).2.made <+: (resolve r setup path (name :: rest) targets b).2.made := by
  rw [resolve_known fresh found]
  obtain ⟨_ | index, b'⟩ := instantiate r setup (path ++ [name]) d b
  · exact List.prefix_refl _
  · exact made_resolve b'

theorem resolve_sound (built : r.Built) (trail : Trail r fixtures roots (tests ++ [t]))
    (below : Continues σ r setup fixtures roots tests t) {names : List String}
    (named : ∀ name ∈ names, ∃ u, r.DependsOn fixtures t u ∧ u.name = name) (before : SortedSet Nat)
    (coherent : b.Coherent r fixtures roots (tests ++ [t]))
    (agrees : (resolve r setup ((tests ++ [t]).map TestDefinition.name) names before b).2.Agrees fixtures) :
    Sound r fixtures roots (Resolved r fixtures roots (tests ++ [t]) names before b)
      (resolve r setup ((tests ++ [t]).map TestDefinition.name) names before b) := by
  induction names generalizing before b with
  | nil =>
    rw [resolve]
    exact ⟨coherent, .refl b, by simp, by simp⟩
  | cons name rest ih =>
    obtain ⟨u, depends, rfl⟩ := named _ List.mem_cons_self
    have required := built.require_name (depends.registered built)
    by_cases again : u.name ∈ (tests ++ [t]).map TestDefinition.name
    · rw [resolve_cycle again]
      refine ⟨trail.fault built depends again, fun name blamed => ?_⟩
      obtain ⟨x, member, rfl⟩ := List.mem_map.mp ((List.dropWhile_suffix _).subset blamed)
      exact coherent.mem_built member
    · have visited := below u b depends again coherent
      rw [List.map_append, List.map_singleton] at visited
      replace visited := visited (agrees.of_prefix (made_known again required))
      rw [resolve_known again required] at agrees ⊢
      revert visited agrees
      obtain ⟨_ | index, b'⟩ := instantiate r setup ((tests ++ [t]).map TestDefinition.name ++ [u.name]) u b
      · exact fun _ faulty => faulty
      · intro agrees (visited : Instantiated _ _ _ _ _ _ _ _)
        have others := ih (fun name member => named name (List.mem_cons_of_mem _ member))
          (before.insert index) visited.coherent agrees
        revert others
        simp only
        obtain ⟨_ | targets, b''⟩ := resolve r setup ((tests ++ [t]).map TestDefinition.name) rest
          (before.insert index) b'
        · exact id
        · exact fun others => Resolved.cons visited others

omit [Transport σ] in
/-- A dependency that is put on the path leaves fewer registered tests off it. -/
theorem unvisited_snoc_lt {u : TestDefinition} (built : r.Built) (depends : r.DependsOn fixtures t u)
    (apart : u.name ∉ tests.map TestDefinition.name) :
    r.unvisited ((tests ++ [u]).map TestDefinition.name) < r.unvisited (tests.map TestDefinition.name) := by
  rw [List.map_append, List.map_singleton]
  exact Registry.unvisited_lt apart (built.require_name (depends.registered built))

theorem made_resolved {path : List String} {dependencies : SortedSet String} (fresh : b.memo.get? d.name = none)
    (found : r.dependenciesOf (b.node setup d) = .ok dependencies) :
    (instantiate r setup path d b).2.made =
      (resolve r setup path dependencies.toList ∅ (b.visit setup d)).2.made := by
  rw [instantiate_resolved fresh found]
  obtain ⟨_ | targets, b'⟩ := resolve r setup path dependencies.toList ∅ (b.visit setup d) <;> rfl

/-- The fixture of a test that is met for the first time stays. -/
theorem made_enter_instantiate {path : List String} (fresh : b.memo.get? d.name = none) :
    (b.enter setup d).2.made <+: (instantiate r setup path d b).2.made := by
  cases found : r.dependenciesOf (b.node setup d) with
  | error error =>
    simp only [instantiate_unresolved fresh found, List.prefix_rfl]
  | ok dependencies =>
    rw [made_resolved fresh found]
    exact made_resolve (b.visit setup d)

theorem instantiate_sound (built : r.Built) (trail : Trail r fixtures roots (tests ++ [d]))
    (coherent : b.Coherent r fixtures roots tests)
    (agrees : (instantiate r setup ((tests ++ [d]).map TestDefinition.name) d b).2.Agrees fixtures) :
    Sound r fixtures roots (Instantiated r fixtures roots tests d b)
      (instantiate r setup ((tests ++ [d]).map TestDefinition.name) d b) := by
  -- Each test that is put on the trail leaves fewer registered tests off it.
  induction left : r.unvisited ((tests ++ [d]).map TestDefinition.name) using Nat.strong_induction_on
    generalizing tests d b with
  | _ left ih =>
    have registered := trail.registered_last
    have reached := trail.reached_last
    have unlike := trail.name_ne
    cases fresh : b.memo.get? d.name with
    | some i =>
      -- The trail was checked for this test before, so it is not under way.
      rw [instantiate_met fresh]
      exact ⟨coherent, .refl b, fresh, coherent.closed fresh unlike⟩
    | none =>
      have node := agrees.node (made_enter_instantiate fresh)
      have visited := coherent.visit fresh registered reached node
      have extends_ := extends_visit setup fresh
      have met : (b.visit setup d).memo.get? d.name = some b.graph.size := by rw [memo_visit, if_pos rfl]
      cases found : r.dependenciesOf (b.node setup d) with
      | error error =>
        rw [instantiate_unresolved fresh found]
        refine ⟨Registry.dependenciesOf_eq_error reached (node ▸ found), fun name blamed => ?_⟩
        rw [Registry.blamed_of_dependenciesOf found] at blamed
        exact List.mem_map.mpr ⟨_, List.mem_append_right _ (List.mem_singleton_self _),
          (List.mem_singleton.mp blamed).symm⟩
      | ok dependencies =>
        have agrees' : (resolve r setup ((tests ++ [d]).map TestDefinition.name) dependencies.toList ∅
            (b.visit setup d)).2.Agrees fixtures := by
          rw [Agrees, ← made_resolved fresh found]
          exact agrees
        rw [instantiate_resolved fresh found]
        obtain ⟨resolves, members⟩ := Registry.dependenciesOf_eq_ok (node ▸ found)
        have smaller : Continues σ r setup fixtures roots tests d := by
          intro u b depends apart coherent' agrees
          exact ih _ (left ▸ unvisited_snoc_lt built depends apart) (trail.snoc built depends apart) coherent'
            agrees rfl
        have below := resolve_sound built trail smaller (fun name => (members name).mp) ∅ visited agrees'
        revert below
        obtain ⟨_ | targets, b'⟩ := resolve r setup ((tests ++ [d]).map TestDefinition.name)
          dependencies.toList ∅ (b.visit setup d)
        · exact id
        · intro (below : Resolved _ _ _ _ _ _ _ _ _)
          have linked := below.linked built resolves members
          have met' := below.extends_.memo met
          obtain ⟨extends', coherent'⟩ := below.coherent.setEdges built met' registered linked unlike
          refine ⟨coherent', (extends_.trans below.extends_).trans extends', extends'.memo met', ?_⟩
          exact coherent'.closed (extends'.memo met') unlike

theorem selectAll_sound (built : r.Built) {selected : List TestDefinition}
    (registered : ∀ d ∈ selected, d ∈ r.definitions) (within : selected ⊆ roots)
    (coherent : b.Coherent r fixtures roots []) (agrees : (selectAll r setup selected b).2.Agrees fixtures) :
    Sound r fixtures roots
      (fun _ b' => b'.Coherent r fixtures roots [] ∧ b.Extends b' ∧ ∀ d ∈ selected, b'.Closed d.name)
      (selectAll r setup selected b) := by
  induction selected generalizing b with
  | nil => exact ⟨coherent, .refl b, by simp⟩
  | cons d rest ih =>
    obtain ⟨inRoots, restWithin⟩ := List.cons_subset.mp within
    have trail : Trail r fixtures roots ([] ++ [d]) := .single (registered d List.mem_cons_self) inRoots
    have first (agrees : (instantiate r setup [d.name] d b).2.Agrees fixtures) :
        Sound r fixtures roots (Instantiated r fixtures roots [] d b) (instantiate r setup [d.name] d b) :=
      instantiate_sound built trail coherent agrees
    rw [selectAll] at agrees ⊢
    revert first agrees
    obtain ⟨_ | i, b'⟩ := instantiate r setup [d.name] d b
    · exact fun agrees faulty => faulty agrees
    · intro agrees visited
      have first : Instantiated _ _ _ _ _ _ _ _ := visited (agrees.of_prefix (made_selectAll b' rest))
      have others := ih (fun d member => registered d (List.mem_cons_of_mem _ member)) restWithin first.coherent agrees
      revert others
      simp only
      obtain ⟨_ | _, b''⟩ := selectAll r setup rest b'
      · exact id
      · rintro ⟨coherent', extends_, closed⟩
        refine ⟨coherent', first.extends_.trans extends_, ?_⟩
        rintro d' (_ | ⟨_, member⟩)
        · exact first.closed.extend extends_
        · exact closed d' member

end Recursion

end Builder

/-! ### Graphs that come of building -/

namespace DependencyGraph

/-- The graph is that of the tests below the selection, each of which settles. -/
structure Represents (g : DependencyGraph) (r : Registry) (fixtures : Fixtures) (roots : List TestDefinition) :
    Prop where
  settles : ∀ d, r.Reached fixtures roots d → r.Settles fixtures d
  nodes : ∀ n, n ∈ g.nodes ↔ ∃ d, r.Reached fixtures roots d ∧ n = .ofDefinition fixtures d
  names_nodup : (g.nodes.map TestNode.name).Nodup
  keys : ∀ i targets, g.edges.get? i = some targets → i < g.size
  edges : ∀ i n, g.nodes[i]? = some n → ∃ targets, g.edges.get? i = some targets ∧
    ∀ j, j ∈ targets ↔ ∃ m, g.nodes[j]? = some m ∧ r.DependsOn fixtures n.definition m.definition

variable {σ : Type} {r : Registry} {fixtures : Fixtures} {selected : List TestDefinition}

theorem represents_of_coherent {b : Builder σ} (built : r.Built)
    (registered : ∀ d ∈ selected, d ∈ r.definitions) (coherent : b.Coherent r fixtures selected [])
    (closed : ∀ d ∈ selected, b.Closed d.name) : b.graph.Represents r fixtures selected := by
  have below : ∀ d, r.Reached fixtures selected d → d ∈ r.definitions :=
    fun d reached => reached.registered built registered
  have shut : ∀ d, r.Reached fixtures selected d → b.Closed d.name := by
    rintro d ⟨root, member, path⟩
    exact coherent.closed_below built (registered root member) (closed root member) path
  have inside : ∀ d, r.Reached fixtures selected d → TestNode.ofDefinition fixtures d ∈ b.graph.nodes := by
    intro d reached
    obtain ⟨i, targets, met, edges⟩ := shut d reached
    exact List.mem_of_getElem? (coherent.node built met (below d reached))
  refine ⟨fun d reached => ?_, fun n => ⟨fun member => ?_, ?_⟩, coherent.names_nodup,
    fun i targets edges => ?_, fun i n found => ?_⟩
  · exact coherent.settles built (below d reached) (shut d reached)
  · obtain ⟨d, -, reached, named⟩ := coherent.nodes n member
    exact ⟨d, reached, named⟩
  · rintro ⟨d, reached, rfl⟩
    exact inside d reached
  · obtain ⟨n, found, -⟩ := coherent.edges i targets edges
    exact (List.getElem?_eq_some_iff.mp found).1
  · cases edges : b.graph.edges.get? i with
    | none =>
      obtain ⟨t, member, -⟩ := (coherent.unclosed i n found).mp edges
      cases member
    | some targets =>
      obtain ⟨n', found', linked⟩ := coherent.edges i targets edges
      have same := found.symm.trans found'
      rw [← Option.some.inj same] at linked
      refine ⟨targets, rfl, fun j => (linked.targets j).trans ⟨?_, ?_⟩⟩
      · rintro ⟨u, depends, met⟩
        have registeredU := depends.registered built
        exact ⟨_, coherent.node built met registeredU, depends⟩
      · rintro ⟨m, foundM, depends⟩
        exact ⟨m.definition, depends, (coherent.memo _ j).mpr ⟨m, foundM, rfl⟩⟩

section Building

variable [Transport σ] {setup : TestSetup} {equipment : Equipment σ}

/-- Building either gives the graph of the selection or blames a fault of the suite. -/
theorem build_sound (built : r.Built) (registered : ∀ d ∈ selected, d ∈ r.definitions)
    (agrees : (build r setup selected equipment).Agrees fixtures) :
    match (build r setup selected equipment).result with
    | .ok g => g.Represents r fixtures selected
    | .error error =>
      r.Fault fixtures selected error ∧ ∀ name ∈ error.blamed, name ∈ (build r setup selected equipment).built := by
  have sound : Builder.Sound r fixtures selected _ (Builder.selectAll r setup selected (.start equipment)) :=
    Builder.selectAll_sound built registered (List.Subset.refl selected) (.start equipment) agrees
  rw [build]
  revert sound
  obtain ⟨error | _, b⟩ := Builder.selectAll r setup selected (.start equipment)
  · exact id
  · rintro ⟨coherent, -, closed⟩
    exact represents_of_coherent built registered coherent closed

theorem represents_of_build (built : r.Built) (registered : ∀ d ∈ selected, d ∈ r.definitions)
    {g : DependencyGraph} (constructed : (build r setup selected equipment).result = .ok g) :
    g.Represents r (build r setup selected equipment).fixtures selected := by
  have sound := build_sound built registered (agrees_fixtures r setup selected equipment)
  rwa [constructed] at sound

/-- A fixture is made for each node of the graph, in the order of the nodes, and for no other test. -/
theorem made_eq (built : r.Built) (registered : ∀ d ∈ selected, d ∈ r.definitions)
    {g : DependencyGraph} (constructed : (build r setup selected equipment).result = .ok g) :
    (build r setup selected equipment).made = g.nodes := by
  have sound : Builder.Sound r (build r setup selected equipment).fixtures selected _
      (Builder.selectAll r setup selected (.start equipment)) :=
    Builder.selectAll_sound built registered (List.Subset.refl selected) (.start equipment)
      (agrees_fixtures r setup selected equipment)
  have graph : (build r setup selected equipment).result =
      match Builder.selectAll r setup selected (.start equipment) with
      | (.error error, _) => .error error
      | (.ok (), b) => .ok b.graph := by
    rw [build]
    obtain ⟨_ | _, b⟩ := Builder.selectAll r setup selected (.start equipment) <;> rfl
  have made : (build r setup selected equipment).made =
      (Builder.selectAll r setup selected (.start equipment)).2.made := rfl
  rw [graph] at constructed
  rw [made]
  revert sound constructed
  obtain ⟨error | _, b⟩ := Builder.selectAll r setup selected (.start equipment)
  · intro constructed
    cases constructed
  · rintro same ⟨coherent, -, -⟩
    obtain rfl : b.graph = g := Except.ok.inj same
    exact coherent.made

/-- A selection with nothing wrong below it has a graph. -/
theorem exists_graph (built : r.Built) (registered : ∀ d ∈ selected, d ∈ r.definitions)
    (agrees : (build r setup selected equipment).Agrees fixtures)
    (sane : ∀ t, r.Reached fixtures selected t → r.Resolves fixtures t ∧ ¬ TransGen (r.DependsOn fixtures) t t) :
    ∃ g, (build r setup selected equipment).result = .ok g := by
  have sound := build_sound built registered agrees
  cases outcome : (build r setup selected equipment).result with
  | ok g => exact ⟨g, rfl⟩
  | error error =>
    rw [outcome] at sound
    obtain ⟨t, reached, fails⟩ := sound.1.exists_test
    exact absurd (sane t reached) fails

/-- Whenever the factory of a test is called, the fixture asks for what the given one asks for. -/
def AsksAlways (σ : Type) [Transport σ] (r : Registry) (setup : TestSetup) (fixtures : Fixtures) : Prop :=
  ∀ d ∈ r.definitions, ∀ w : Workshop σ, (d.make setup w).1.extraRequires = (fixtures d).extraRequires

/-- The fixtures that are made can be completed so that they ask for what is always asked for. -/
theorem AsksAlways.exists_agrees (always : AsksAlways σ r setup fixtures) (selected : List TestDefinition)
    (equipment : Equipment σ) : ∃ made : Fixtures, (build r setup selected equipment).Agrees made ∧
      ∀ d ∈ r.definitions, (made d).extraRequires = (fixtures d).extraRequires := by
  obtain ⟨made, agrees, origin⟩ := DependencyGraph.exists_agrees r setup selected equipment fixtures
  refine ⟨made, agrees, fun d member => ?_⟩
  rcases origin d with given | ⟨w, fresh⟩
  · rw [given]
  · rw [fresh, always d member w]

theorem AsksAlways.exists_graph_iff (always : AsksAlways σ r setup fixtures) (built : r.Built)
    (registered : ∀ d ∈ selected, d ∈ r.definitions) (equipment : Equipment σ) :
    (∃ g, (build r setup selected equipment).result = .ok g) ↔
      ∀ t, r.Reached fixtures selected t → r.Resolves fixtures t ∧ ¬ TransGen (r.DependsOn fixtures) t t := by
  obtain ⟨made, agrees, alike⟩ := always.exists_agrees selected equipment
  have same (t : TestDefinition) (reached : r.Reached fixtures selected t) :
      (fixtures t).extraRequires = (made t).extraRequires := (alike t (reached.registered built registered)).symm
  refine ⟨?_, fun sane => exists_graph built registered agrees fun t reached => ?_⟩
  · rintro ⟨g, constructed⟩ t reached
    have sound := build_sound built registered agrees
    rw [constructed] at sound
    have settles := sound.settles t ((Registry.reached_iff_of_alike same).mpr reached)
    exact ⟨Registry.resolves_of_alike (same t reached).symm settles.resolves,
      fun cycle => settles.acyclic ((Registry.transGen_iff_of_alike same reached).mp cycle)⟩
  · replace reached := (Registry.reached_iff_of_alike same).mp reached
    obtain ⟨resolves, acyclic⟩ := sane t reached
    exact ⟨Registry.resolves_of_alike (same t reached) resolves,
      fun cycle => acyclic ((Registry.transGen_iff_of_alike same reached).mpr cycle)⟩

/--
If the fixture of each test always asks for the same properties, a graph can be built just if everything below the
selection resolves and nothing below it is on a cycle. Building never comes upon a test that is not registered.
-/
theorem build_ok_iff (built : r.Built) (setup : TestSetup) (equipment : Equipment σ)
    (registered : ∀ d ∈ selected, d ∈ r.definitions) (always : AsksAlways σ r setup fixtures) :
    ((∃ g, (build r setup selected equipment).result = .ok g) ↔
      ∀ t, r.Reached fixtures selected t → r.Resolves fixtures t ∧ ¬ TransGen (r.DependsOn fixtures) t t) ∧
    ∀ name, (build r setup selected equipment).result ≠ .error (.unknownTest name) := by
  refine ⟨always.exists_graph_iff built registered equipment, fun name failed => ?_⟩
  have sound := build_sound built registered (agrees_fixtures r setup selected equipment)
  rw [failed] at sound
  cases sound.1

end Building

/-- Two tests that name each other cannot be built, though both are registered. -/
theorem build_ok_iff_of_mutual :
    let factory (_ : TestSetup) : Factory := .record .get .zero (.ofBody (.done .passed))
    let first : TestDefinition := ⟨"A", "", ∅, ∅, .ofList ["B"], factory⟩
    let second : TestDefinition := ⟨"B", "", ∅, ∅, .ofList ["A"], factory⟩
    let r := (Registry.empty.registerAll [first, second] 0).registry
    let setup : TestSetup := ⟨1, .zero, .zero, .empty⟩
    let equipment : Equipment Script := ⟨.ofReplies [], 0, .empty, ∅⟩
    r.Built ∧ (∀ d ∈ [second, second], d ∈ r.definitions) ∧
      AsksAlways Script r setup (fun _ => .ofBody (.done .passed)) ∧
      ¬ ∃ g, (build r setup [second, second] equipment).result = .ok g := by
  intro factory first second r setup equipment
  have built : r.Built := .registerAll .empty _ _
  have definitions : r.definitions = [first, second] := rfl
  have registered : ∀ d ∈ [second, second], d ∈ r.definitions := by simp [definitions]
  have always : AsksAlways Script r setup (fun _ => .ofBody (.done .passed)) := by
    intro d member w
    rw [definitions] at member
    rcases List.mem_cons.mp member with rfl | member
    · rfl
    · rw [List.mem_singleton.mp member]
      rfl
  have forth : r.DependsOn (fun _ => .ofBody (.done .passed)) second first :=
    .named List.mem_cons_self (built.get?_eq_some_iff.mpr ⟨by simp [definitions], rfl⟩)
  have back : r.DependsOn (fun _ => .ofBody (.done .passed)) first second :=
    .named List.mem_cons_self (built.get?_eq_some_iff.mpr ⟨by simp [definitions], rfl⟩)
  refine ⟨built, registered, always, fun succeeds => ?_⟩
  have sane := (build_ok_iff built setup equipment registered always).1.mp succeeds second (.root List.mem_cons_self)
  exact sane.2 (.tail (.single forth) back)

end DependencyGraph

end Conformance
