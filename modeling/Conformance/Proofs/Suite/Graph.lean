import Mathlib.Data.List.Permutation
import Mathlib.Data.Set.Card
import Conformance.Proofs.Suite.Schedule

/-!
# Nodes and edges of a selection

A graph has one node for each test below the selection, in the order in which the fixtures were made, and
one edge for each pair of such a test with one that it depends on (`Represents.encard_dependencies`). By
name, the edges say just who depends on whom below the selection (`Represents.get?_namedEdges`), so in what
order the tests were selected, and how often, does not show in them. `graph_of_selection` puts this together.
-/

namespace Conformance

namespace Registry

/-- The tests below the selection, each with one that it depends on. -/
def dependencies (r : Registry) (fixtures : Fixtures) (roots : List TestDefinition) :
    Set (TestDefinition × TestDefinition) :=
  {pair | r.Reached fixtures roots pair.1 ∧ r.DependsOn fixtures pair.1 pair.2}

variable {r : Registry} {fixtures : Fixtures} {roots roots' : List TestDefinition} {t : TestDefinition}

theorem reached_congr (same : ∀ d, d ∈ roots ↔ d ∈ roots') :
    r.Reached fixtures roots t ↔ r.Reached fixtures roots' t := by
  simp only [Reached, same]

end Registry

namespace Waiting

variable {w : Waiting} {i j : Nat}

/-- The nodes that wait, each with one that it waits for. -/
def pairs (w : Waiting) : List (Nat × Nat) := w.entries.flatMap fun entry => entry.2.toList.map (entry.1, ·)

theorem mem_pairs : (i, j) ∈ w.pairs ↔ w.Waits i j := by
  simp only [pairs, List.mem_flatMap, List.mem_map, Prod.mk.injEq]
  constructor
  · rintro ⟨⟨_, deps⟩, entry, _, member, rfl, rfl⟩
    exact ⟨deps, SortedMap.get?_eq_some_iff.mpr entry, member⟩
  · rintro ⟨deps, known, member⟩
    exact ⟨(i, deps), SortedMap.get?_eq_some_iff.mp known, j, member, rfl, rfl⟩

theorem nodup_pairs (w : Waiting) : w.pairs.Nodup := by
  apply List.nodup_flatMap.mpr
  constructor
  · intro entry _
    exact entry.2.sorted.nodup.map fun _ _ same => (Prod.mk.inj same).2
  · apply w.sorted.imp
    intro entry other less pair here there
    obtain ⟨_, _, rfl⟩ := List.mem_map.mp here
    obtain ⟨_, _, same⟩ := List.mem_map.mp there
    have keys : other.1 = entry.1 := (Prod.mk.inj same).1
    omega

end Waiting

namespace DependencyGraph

variable {g g' : DependencyGraph} {r : Registry} {fixtures fixtures' : Fixtures}
  {roots roots' : List TestDefinition} {i : Nat} {n : TestNode} {d : TestDefinition} {name : String}
  {targets : SortedSet Nat} {names : SortedSet String}

theorem length_pairs (g : DependencyGraph) : (Waiting.pairs g.edges).length = g.edgeCount := by
  have sizes : g.edges.entries.map (fun entry => entry.2.size) = g.edges.values.map SortedSet.size := by
    simp only [SortedMap.values, List.map_map, Function.comp_def]
  simp only [Waiting.pairs, List.length_flatMap, List.length_map]
  rw [edgeCount, ← List.foldl_map, ← List.sum_eq_foldl, ← sizes]
  rfl

theorem namedEdges_eq (g : DependencyGraph) :
    g.namedEdges = .ofList (g.edges.entries.map fun entry =>
      (g.nameAt entry.1, .ofList (entry.2.toList.map g.nameAt))) := rfl

theorem nameAt_eq (found : g.nodes[i]? = some n) : g.nameAt i = n.name := by
  rw [nameAt, node?, found]
  rfl

def place (g : DependencyGraph) (name : String) : Nat := (g.nodes.map TestNode.name).idxOf name

namespace Represents

theorem keys_eq (represents : g.Represents r fixtures roots) : g.edges.keys = List.range g.size := by
  apply (SortedMap.pairwise_keys g.edges).eq_of_mem_iff List.pairwise_lt_range
  intro i
  rw [represents.mem_keys, List.mem_range]

theorem getElem?_place (represents : g.Represents r fixtures roots) (reached : r.Reached fixtures roots d) :
    g.nodes[g.place d.name]? = some (.ofDefinition fixtures d) := by
  obtain ⟨i, found⟩ := List.mem_iff_getElem?.mp ((represents.nodes _).mpr ⟨d, reached, rfl⟩)
  have named : (g.nodes.map TestNode.name)[i]? = some d.name := by
    rw [List.getElem?_map, found]
    rfl
  obtain ⟨within, here⟩ := List.getElem?_eq_some_iff.mp named
  have first := represents.names_nodup.idxOf_getElem i within
  rw [here] at first
  rw [place, first, found]

theorem place_inj (represents : g.Represents r fixtures roots) {t u : TestDefinition}
    (reached : r.Reached fixtures roots t) (reached' : r.Reached fixtures roots u)
    (same : g.place t.name = g.place u.name) : t = u := by
  have atT := represents.getElem?_place reached
  have atU := represents.getElem?_place reached'
  rw [same, atU] at atT
  exact (congrArg TestNode.definition (Option.some.inj atT)).symm

theorem exists_test (represents : g.Represents r fixtures roots) (found : g.nodes[i]? = some n) :
    ∃ d, r.Reached fixtures roots d ∧ n = .ofDefinition fixtures d ∧ g.place d.name = i := by
  obtain ⟨d, reached, rfl⟩ := (represents.nodes n).mp (List.mem_of_getElem? found)
  exact ⟨d, reached, rfl, represents.eq_of_name (represents.getElem?_place reached) found rfl⟩

theorem waits_place_iff (represents : g.Represents r fixtures roots) {i j : Nat} :
    Waiting.Waits g.edges i j ↔
      ∃ t u, r.Reached fixtures roots t ∧ r.DependsOn fixtures t u ∧ g.place t.name = i ∧ g.place u.name = j := by
  constructor
  · intro waits
    obtain ⟨n, found, -⟩ := represents.node waits.mem_keys
    obtain ⟨m, foundM, depends⟩ := (represents.waits_iff found).mp waits
    obtain ⟨t, reached, rfl, atI⟩ := represents.exists_test found
    obtain ⟨u, -, rfl, atJ⟩ := represents.exists_test foundM
    exact ⟨t, u, reached, depends, atI, atJ⟩
  · rintro ⟨t, u, reached, depends, rfl, rfl⟩
    exact (represents.waits_iff (represents.getElem?_place reached)).mpr
      ⟨_, represents.getElem?_place (reached.step depends), depends⟩

theorem encard_dependencies (represents : g.Represents r fixtures roots) :
    (r.dependencies fixtures roots).encard = g.edgeCount := by
  -- No two tests have a node in common, so every pair of tests has a pair of nodes to itself.
  let places (pair : TestDefinition × TestDefinition) : Nat × Nat := (g.place pair.1.name, g.place pair.2.name)
  have apart : Set.InjOn places (r.dependencies fixtures roots) := by
    rintro ⟨t, u⟩ ⟨reached, depends⟩ ⟨t', u'⟩ ⟨reached', depends'⟩ same
    obtain ⟨sameT, sameU⟩ := Prod.mk.inj same
    obtain rfl := represents.place_inj reached reached' sameT
    obtain rfl := represents.place_inj (reached.step depends) (reached.step depends') sameU
    rfl
  have image : places '' r.dependencies fixtures roots = (Waiting.pairs g.edges).toFinset := by
    ext ⟨i, j⟩
    simp only [Registry.dependencies, Set.mem_image, Set.mem_ofPred_eq, Prod.exists, List.coe_toFinset,
      Waiting.mem_pairs, represents.waits_place_iff, places, Prod.mk.injEq]
    simp only [and_assoc]
  calc (r.dependencies fixtures roots).encard = (places '' r.dependencies fixtures roots).encard :=
        apart.encard_image.symm
    _ = (Waiting.pairs g.edges).length := by
        rw [image, Set.encard_coe_eq_coe_finsetCard, List.toFinset_card_of_nodup (Waiting.nodup_pairs _)]
    _ = g.edgeCount := by rw [length_pairs]

/-! ### Edges by name -/

theorem name_targets_iff (represents : g.Represents r fixtures roots) (reached : r.Reached fixtures roots d)
    (edges : g.edges.get? (g.place d.name) = some targets) :
    name ∈ SortedSet.ofList (targets.toList.map g.nameAt) ↔ ∃ u, r.DependsOn fixtures d u ∧ u.name = name := by
  obtain ⟨targets', edges', linked⟩ := represents.edges _ _ (represents.getElem?_place reached)
  obtain rfl : targets' = targets := Option.some.inj (edges'.symm.trans edges)
  rw [SortedSet.mem_ofList, List.mem_map]
  constructor
  · rintro ⟨j, member, rfl⟩
    obtain ⟨m, found, depends⟩ := (linked j).mp member
    exact ⟨m.definition, depends, (nameAt_eq found).symm⟩
  · rintro ⟨u, depends, rfl⟩
    have there := represents.getElem?_place (reached.step depends)
    exact ⟨g.place u.name, (linked _).mpr ⟨_, there, depends⟩, nameAt_eq there⟩

theorem names_eq (represents : g.Represents r fixtures roots) :
    g.edges.keys.map g.nameAt = g.nodes.map TestNode.name := by
  rw [represents.keys_eq]
  apply List.ext_getElem?
  intro i
  rw [List.getElem?_map, List.getElem?_map]
  cases found : g.nodes[i]? with
  | none =>
    have beyond : g.size ≤ i := List.getElem?_eq_none_iff.mp found
    rw [List.getElem?_eq_none (by rw [List.length_range]; exact beyond)]
    rfl
  | some n =>
    have within : i < g.size := (List.getElem?_eq_some_iff.mp found).1
    rw [List.getElem?_range within, Option.map_some, Option.map_some, nameAt_eq found]

theorem get?_namedEdges (represents : g.Represents r fixtures roots) :
    g.namedEdges.get? name = some names ↔ ∃ d, r.Reached fixtures roots d ∧ d.name = name ∧
      ∀ other, other ∈ names ↔ ∃ u, r.DependsOn fixtures d u ∧ u.name = other := by
  have once : ((g.edges.entries.map fun entry =>
      (g.nameAt entry.1, SortedSet.ofList (entry.2.toList.map g.nameAt))).map Prod.fst).Nodup := by
    have names := represents.names_nodup
    rw [← represents.names_eq, SortedMap.keys, List.map_map] at names
    rwa [List.map_map]
  rw [namedEdges_eq, SortedMap.get?_ofList once, List.mem_map]
  constructor
  · rintro ⟨⟨i, targets⟩, entry, same⟩
    obtain ⟨rfl, rfl⟩ := Prod.mk.inj same
    have edges := SortedMap.get?_eq_some_iff.mpr entry
    obtain ⟨n, found, -⟩ := represents.node (SortedMap.mem_keys_iff.mpr ⟨targets, edges⟩)
    obtain ⟨d, reached, rfl, rfl⟩ := represents.exists_test found
    exact ⟨d, reached, (nameAt_eq found).symm, fun other => represents.name_targets_iff reached edges⟩
  · rintro ⟨d, reached, rfl, members⟩
    have here := represents.getElem?_place reached
    obtain ⟨targets, edges, -⟩ := represents.edges _ _ here
    refine ⟨_, SortedMap.get?_eq_some_iff.mp edges, Prod.ext (nameAt_eq here) ?_⟩
    apply SortedSet.ext_mem
    intro other
    rw [represents.name_targets_iff reached edges, members]

/-- Graphs of the same selected tests have the same edges by name, if the fixtures ask for the same. -/
theorem namedEdges_congr (represents : g.Represents r fixtures roots) (represents' : g'.Represents r fixtures' roots')
    (same : ∀ d, d ∈ roots' ↔ d ∈ roots)
    (alike : ∀ d, r.Reached fixtures roots d → (fixtures d).extraRequires = (fixtures' d).extraRequires) :
    g'.namedEdges = g.namedEdges := by
  have reached (d : TestDefinition) : r.Reached fixtures' roots' d ↔ r.Reached fixtures roots d :=
    (Registry.reached_congr same).trans (Registry.reached_iff_of_alike alike)
  apply SortedMap.ext_get?
  intro name
  apply Option.ext
  intro names
  rw [represents.get?_namedEdges, represents'.get?_namedEdges]
  refine exists_congr fun d => ?_
  rw [reached]
  refine and_congr_right fun below => and_congr_right fun _ => forall_congr' fun other => ?_
  simp only [Registry.dependsOn_iff_of_alike alike below]

end Represents

variable {σ : Type} [Transport σ] {setup : TestSetup} {selected : List TestDefinition} {equipment : Equipment σ}

/-- If every fixture always asks for the same, the selection of the same tests always has a graph with the same
edges. -/
theorem exists_namedEdges_eq (built : r.Built) (registered : ∀ d ∈ selected, d ∈ r.definitions)
    (constructed : (build r setup selected equipment).result = .ok g) (always : AsksAlways σ r setup fixtures)
    {others : List TestDefinition} (same : ∀ d, d ∈ others ↔ d ∈ selected) (equipment' : Equipment σ) :
    ∃ g', (build r setup others equipment').result = .ok g' ∧ g'.namedEdges = g.namedEdges := by
  have registered' : ∀ d ∈ others, d ∈ r.definitions := fun d member => registered d ((same d).mp member)
  have sane := (always.exists_graph_iff built registered equipment).mp ⟨g, constructed⟩
  obtain ⟨g', constructed'⟩ := (always.exists_graph_iff built registered' equipment').mpr fun t reached =>
    sane t ((Registry.reached_congr same).mp reached)
  obtain ⟨made, agrees, alike⟩ := always.exists_agrees selected equipment
  obtain ⟨made', agrees', alike'⟩ := always.exists_agrees others equipment'
  have represents := build_sound built registered agrees
  have represents' := build_sound built registered' agrees'
  rw [constructed] at represents
  rw [constructed'] at represents'
  refine ⟨g', constructed', represents.namedEdges_congr represents' same fun d reached => ?_⟩
  have known := reached.registered built registered
  rw [alike d known, alike' d known]

/--
The nodes of a graph are the tests below the selection, each once and in the order in which their fixtures were
made, which was once for each. A node has the fixture that the factory of its test has made, and requires what the
definition and that fixture require, all of which is there. The edges go from every node to the nodes of just the
tests that it depends on, so there are as many as there are dependencies below the selection; by name, they say
who depends on whom. So they are the same for every selection of these tests for which the fixtures ask for the
same, and if fixtures always ask for the same there is a graph for every one of them.
-/
theorem graph_of_selection (built : r.Built) (setup : TestSetup) (equipment : Equipment σ)
    (registered : ∀ d ∈ selected, d ∈ r.definitions)
    (constructed : (build r setup selected equipment).result = .ok g) :
    let construction := build r setup selected equipment
    let fixtures := construction.fixtures
    let names := g.nodes.map TestNode.name
    names.Nodup ∧ (∀ name, name ∈ names ↔ ∃ d, r.Reached fixtures selected d ∧ d.name = name) ∧
      construction.made = g.nodes ∧ construction.built = names ∧
      (∃ w : Workshop σ,
        TestDefinition.makeAll setup (g.nodes.map TestNode.definition) (.open equipment) = (g.nodes, w) ∧
        construction.equipment = w.toEquipment ∧ construction.notes = w.notes.toList) ∧
      (∀ n ∈ g.nodes, n.definition ∈ r.definitions ∧ n.fixture = fixtures n.definition ∧
        (∀ property, property ∈ n.requires ↔
          property ∈ n.definition.requires ∨ property ∈ n.fixture.extraRequires) ∧
        r.Resolves fixtures n.definition ∧ ∀ u, r.DependsOn fixtures n.definition u → u.name ∈ names) ∧
      g.edges.keys = List.range g.size ∧
      (∀ i n, g.nodes[i]? = some n → ∃ targets, g.edges.get? i = some targets ∧ (∀ j ∈ targets, j < g.size) ∧
        ∀ j, j ∈ targets ↔ ∃ m, g.nodes[j]? = some m ∧ r.DependsOn fixtures n.definition m.definition) ∧
      (r.dependencies fixtures selected).encard = g.edgeCount ∧
      (∀ name names, g.namedEdges.get? name = some names ↔ ∃ d, r.Reached fixtures selected d ∧ d.name = name ∧
        ∀ other, other ∈ names ↔ ∃ u, r.DependsOn fixtures d u ∧ u.name = other) ∧
      ∀ others, (∀ d, d ∈ others ↔ d ∈ selected) → ∀ equipment' : Equipment σ,
        (∀ g', (build r setup others equipment').result = .ok g' →
          (∀ d, r.Reached fixtures selected d →
            (fixtures d).extraRequires = ((build r setup others equipment').fixtures d).extraRequires) →
          g'.namedEdges = g.namedEdges) ∧
        ∀ asked, AsksAlways σ r setup asked →
          ∃ g', (build r setup others equipment').result = .ok g' ∧ g'.namedEdges = g.namedEdges := by
  intro construction fixtures names
  have represents : g.Represents r fixtures selected := represents_of_build built registered constructed
  have made : construction.made = g.nodes := made_eq built registered constructed
  have members (name : String) : name ∈ names ↔ ∃ d, r.Reached fixtures selected d ∧ d.name = name :=
    Registry.mem_map_name_iff represents.nodes
  refine ⟨represents.names_nodup, members, made, congrArg _ made, ?_, fun n member => ?_,
    represents.keys_eq, fun i n found => ?_, represents.encard_dependencies, fun _ _ => represents.get?_namedEdges,
    fun others same equipment' => ⟨fun g' constructed' alike => ?_, fun asked always => ?_⟩⟩
  · obtain ⟨w, calls, left, notes, -⟩ := exists_workshop r setup selected equipment
    rw [← made]
    exact ⟨w, calls, left, notes⟩
  · obtain ⟨d, reached, rfl⟩ := (represents.nodes n).mp member
    exact ⟨reached.registered built registered, rfl, fun _ => Registry.mem_requires_ofDefinition,
      (represents.settles d reached).resolves, fun u depends => (members u.name).mpr ⟨u, reached.step depends, rfl⟩⟩
  · obtain ⟨targets, edges, linked⟩ := represents.edges i n found
    refine ⟨targets, edges, fun j member => ?_, linked⟩
    obtain ⟨m, there, -⟩ := (linked j).mp member
    exact (List.getElem?_eq_some_iff.mp there).1
  · have registered' : ∀ d ∈ others, d ∈ r.definitions := fun d member => registered d ((same d).mp member)
    have represents' := represents_of_build built registered' constructed'
    exact represents.namedEdges_congr represents' same alike
  · exact exists_namedEdges_eq built registered constructed always same equipment'

/-- A test that two others lead to, one of them through its fixture, has one node. -/
theorem graph_of_selection_of_diamond :
    let base : TestDefinition := ⟨"Base", "", .ofList ["model"], ∅, ∅, fun _ => .ofBody (.done .passed)⟩
    let left : TestDefinition :=
      ⟨"Left", "", ∅, ∅, ∅, fun _ => .made { Fixture.ofBody (.done .passed) with extraRequires := ["model"] }⟩
    let right : TestDefinition := ⟨"Right", "", ∅, ∅, .ofList ["Base"], fun _ => .ofBody (.done .passed)⟩
    let top : TestDefinition := ⟨"Top", "", ∅, ∅, .ofList ["Right", "Left"], fun _ => .ofBody (.done .passed)⟩
    let r := (Registry.empty.registerAll [top, right, left, base] 0).registry
    let setup : TestSetup := ⟨1, .zero, .zero, .empty⟩
    let equipment : Equipment Script := ⟨.ofReplies [], 0, .empty, ∅⟩
    r.Built ∧ (∀ d ∈ [top, left, top], d ∈ r.definitions) ∧
      ∃ g, (build r setup [top, left, top] equipment).result = .ok g ∧
        g.nodes.map TestNode.name = ["Top", "Left", "Base", "Right"] ∧ g.edges.keys = [0, 1, 2, 3] ∧
        ∃ g', (build r setup [left, top] equipment).result = .ok g' ∧ g'.namedEdges = g.namedEdges := by
  intro base left right top r setup equipment
  have built : r.Built := .registerAll .empty _ _
  have definitions : r.definitions = [top, right, left, base] := by subst r; cbv
  have registered : ∀ d ∈ [top, left, top], d ∈ r.definitions := by simp [definitions]
  have order : (build r setup [top, left, top] equipment).built = ["Top", "Left", "Base", "Right"] := by
    subst r
    cbv
  have succeeds : (build r setup [top, left, top] equipment).result.toOption.isSome = true := by
    subst r
    cbv
  have always : AsksAlways Script r setup fun d => (d.make setup (.open equipment)).1 := by
    intro d member w
    rw [definitions] at member
    simp only [List.mem_cons, List.not_mem_nil, or_false] at member
    rcases member with rfl | rfl | rfl | rfl <;> rfl
  cases constructed : (build r setup [top, left, top] equipment).result with
  | error error =>
    rw [constructed] at succeeds
    cases succeeds
  | ok g =>
    obtain ⟨-, -, -, names, -, -, keys, -, -, -, others⟩ :=
      graph_of_selection built setup equipment registered constructed
    rw [order] at names
    have size : g.size = 4 := by
      have lengths := congrArg List.length names
      rw [List.length_map] at lengths
      exact lengths.symm
    rw [size] at keys
    exact ⟨built, registered, g, rfl, names.symm, keys, (others [left, top] (by simp [or_comm]) equipment).2 _ always⟩

end DependencyGraph

end Conformance
