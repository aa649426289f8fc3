import Conformance.Proofs.Fixture.Factory
import Conformance.Proofs.Suite.Making

/-!
# Building with other tests

A `Recast` puts other tests in the place of the registered ones, and sees the equipment that their factories
work with as another one. If the factories do the same, and the fixtures ask for the same, building takes the same
course and comes to the same graph or to the same error (`DependencyGraph.build_recast`). This is so for a transport
that is seen as another one (`build_map`) and for tests with other bodies (`Recast.ofBodies`).
-/

namespace Conformance

/-- Other tests, which ask for the same and act alike on the equipment as it is seen. -/
structure Recast (σ τ : Type) [Transport σ] [Transport τ] where
  test : TestDefinition → TestDefinition
  fixture : TestDefinition → Fixture → Fixture
  see : Equipment σ → Equipment τ
  name_eq : ∀ d, (test d).name = d.name
  requires_eq : ∀ d, (test d).requires = d.requires
  deps_eq : ∀ d, (test d).deps = d.deps
  extraRequires_eq : ∀ d f, (fixture d f).extraRequires = f.extraRequires
  make_eq : ∀ setup d (w : Workshop σ),
    (test d).make setup (w.through see) = (fixture d (d.make setup w).1, (d.make setup w).2.through see)

variable {σ τ : Type} [Transport σ] [Transport τ] (c : Recast σ τ) {setup : TestSetup}

def TestNode.recast (n : TestNode) : TestNode := ⟨c.test n.definition, c.fixture n.definition n.fixture, n.requires⟩

theorem TestNode.name_recast (n : TestNode) : (n.recast c).name = n.name := c.name_eq n.definition

def DependencyGraph.recast (g : DependencyGraph) : DependencyGraph :=
  { g with nodes := g.nodes.map (TestNode.recast c) }

namespace Registry

def recast (r : Registry) : Registry where
  definitions := r.definitions.map c.test
  byName := r.byName
  providers := r.providers
  indexed name i := by simp only [r.indexed name i, List.getElem?_map, Option.map_eq_some_iff,
    exists_exists_and_eq_and, c.name_eq]

variable (r : Registry) (name : String)

theorem get?_recast : (r.recast c).get? name = (r.get? name).map c.test := by
  show (r.byName.get? name).bind (fun i => (r.definitions.map c.test)[i]?) = _
  rw [get?, Option.map_bind]
  congr 1
  funext i
  exact List.getElem?_map

theorem require_recast : (r.recast c).require name = (r.require name).map c.test := by
  rw [require, get?_recast, require]
  cases r.get? name <;> rfl

theorem providerOf?_recast (property : String) :
    (r.recast c).providerOf? property = (r.providerOf? property).map c.test := by
  rw [providerOf?, providerOf?, recast]
  cases r.providers.get? property with
  | none => rfl
  | some name => exact r.get?_recast c name

theorem providersOf_recast (requiredBy : String) (properties : List String) :
    (r.recast c).providersOf requiredBy properties = r.providersOf requiredBy properties := by
  induction properties with
  | nil => rfl
  | cons property rest ih =>
    rw [providersOf, providersOf, providerOf?_recast, ih]
    cases r.providerOf? property with
    | none => rfl
    | some provider => simp only [Option.map_some, c.name_eq]

theorem dependenciesOf_recast (n : TestNode) : (r.recast c).dependenciesOf (n.recast c) = r.dependenciesOf n := by
  have contains (name : String) : (r.recast c).contains name = r.contains name := rfl
  have requires : (n.recast c).requires = n.requires := rfl
  have deps : (n.recast c).definition.deps = n.definition.deps := c.deps_eq n.definition
  unfold dependenciesOf
  simp only [providersOf_recast, TestNode.name_recast, requires, deps, contains]

end Registry

namespace Builder

def recast (b : Builder σ) : Builder τ where
  memo := b.memo
  graph := b.graph.recast c
  made := b.made.map (TestNode.recast c)
  workshop := b.workshop.through c.see

variable {r : Registry} {path : List String} {b : Builder σ} {d : TestDefinition}

theorem size_recast : (b.recast c).graph.size = b.graph.size := List.length_map _

theorem enter_recast (b : Builder σ) (d : TestDefinition) :
    (b.recast c).enter setup (c.test d) = ((b.node setup d).recast c, (b.enter setup d).2.recast c) := by
  have workshop : (b.recast c).workshop = b.workshop.through c.see := rfl
  have node : TestNode.ofFixture (c.test d) (c.fixture d (d.make setup b.workshop).1) =
      (b.node setup d).recast c := by
    rw [TestNode.ofFixture, c.requires_eq, c.extraRequires_eq]
    rfl
  rw [enter, workshop, c.make_eq]
  dsimp only
  rw [node, c.name_eq, size_recast]
  simp only [enter, recast, List.map_append, List.map_singleton]
  rfl

theorem node_recast (b : Builder σ) (d : TestDefinition) :
    (b.recast c).node setup (c.test d) = (b.node setup d).recast c := congrArg Prod.fst (enter_recast c b d)

theorem visit_recast (b : Builder σ) (d : TestDefinition) :
    (b.recast c).visit setup (c.test d) = (b.visit setup d).recast c := by
  rw [visit, node_recast, enter_recast, visit]
  simp only [pushNode, recast, DependencyGraph.recast, List.map_append, List.map_singleton]

theorem resolve_recast (names : List String) (targets : SortedSet Nat) (b : Builder σ)
    (below : ∀ name d (b : Builder σ), name ∉ path → r.require name = .ok d →
      instantiate (r.recast c) setup (path ++ [name]) (c.test d) (b.recast c) =
        ((instantiate r setup (path ++ [name]) d b).1, (instantiate r setup (path ++ [name]) d b).2.recast c)) :
    resolve (r.recast c) setup path names targets (b.recast c) =
      ((resolve r setup path names targets b).1, (resolve r setup path names targets b).2.recast c) := by
  induction names generalizing targets b with
  | nil => rw [resolve, resolve]
  | cons name rest ih =>
    have required := r.require_recast c name
    by_cases again : name ∈ path
    · rw [resolve_cycle again, resolve_cycle again]
    · cases found : r.require name with
      | error error =>
        rw [found] at required
        rw [resolve_unknown again found, resolve_unknown again required]
      | ok d =>
        rw [found] at required
        rw [resolve_known again found, resolve_known again required, below name d b again found]
        obtain ⟨_ | index, b'⟩ := instantiate r setup (path ++ [name]) d b
        · rfl
        · exact ih (targets.insert index) b'

theorem instantiate_recast (d : TestDefinition) (b : Builder σ) :
    instantiate (r.recast c) setup path (c.test d) (b.recast c) =
      ((instantiate r setup path d b).1, (instantiate r setup path d b).2.recast c) := by
  -- Each test that is put on the path leaves fewer registered tests off it.
  induction left : r.unvisited path using Nat.strongRecOn generalizing path d b with
  | _ left ih =>
    have known : (b.recast c).memo.get? (c.test d).name = b.memo.get? d.name := by rw [c.name_eq, recast]
    have same : (r.recast c).dependenciesOf ((b.recast c).node setup (c.test d)) =
        r.dependenciesOf (b.node setup d) := by rw [node_recast, Registry.dependenciesOf_recast]
    cases fresh : b.memo.get? d.name with
    | some i => rw [instantiate_met fresh, instantiate_met (known.trans fresh)]
    | none =>
      cases found : r.dependenciesOf (b.node setup d) with
      | error error =>
        rw [instantiate_unresolved fresh found, instantiate_unresolved (known.trans fresh) (same.trans found),
          enter_recast]
      | ok dependencies =>
        rw [instantiate_resolved fresh found, instantiate_resolved (known.trans fresh) (same.trans found),
          visit_recast, size_recast, resolve_recast]
        · obtain ⟨_ | targets, b'⟩ := resolve r setup path dependencies.toList ∅ (b.visit setup d) <;> rfl
        · intro name d' b' apart required
          exact ih _ (left ▸ Registry.unvisited_lt apart required) d' b' rfl

theorem selectAll_recast (selected : List TestDefinition) (b : Builder σ) :
    selectAll (r.recast c) setup (selected.map c.test) (b.recast c) =
      ((selectAll r setup selected b).1, (selectAll r setup selected b).2.recast c) := by
  induction selected generalizing b with
  | nil => rfl
  | cons d rest ih =>
    rw [List.map_cons, selectAll, c.name_eq, instantiate_recast, selectAll]
    obtain ⟨_ | index, b'⟩ := instantiate r setup [d.name] d b
    · rfl
    · exact ih b'

end Builder

namespace DependencyGraph

def Construction.recast (construction : Construction σ) : Construction τ :=
  ⟨construction.result.map (DependencyGraph.recast c), construction.made.map (TestNode.recast c),
    c.see construction.equipment, construction.notes, construction.events⟩

theorem build_recast (r : Registry) (selected : List TestDefinition) (equipment : Equipment σ) :
    build (r.recast c) setup (selected.map c.test) (c.see equipment) =
      (build r setup selected equipment).recast c := by
  have start : Builder.start (c.see equipment) = (Builder.start equipment).recast c := rfl
  unfold build
  rw [start, Builder.selectAll_recast]
  obtain ⟨_ | _, b⟩ := Builder.selectAll r setup selected (.start equipment)
  · rfl
  · have size : (b.recast c).graph.size = b.graph.size := Builder.size_recast c
    dsimp only
    rw [size]
    rfl

end DependencyGraph

/-! ### Views of the transport -/

/-- The same tests, over a transport that is seen as another one. -/
def Recast.ofView (v : View σ τ) : Recast σ τ where
  test d := d
  fixture _ f := f
  see := .map v.see
  name_eq _ := rfl
  requires_eq _ := rfl
  deps_eq _ := rfl
  extraRequires_eq _ _ := rfl
  make_eq setup d w := (d.factory setup).run_through v w

theorem Registry.recast_ofView (v : View σ τ) (r : Registry) : r.recast (.ofView v) = r := by
  obtain ⟨definitions, byName, providers, indexed⟩ := r
  simp only [recast, Recast.ofView, List.map_id']

namespace DependencyGraph

def Construction.map {σ τ : Type} (f : σ → τ) (c : Construction σ) : Construction τ :=
  ⟨c.result, c.made, c.equipment.map f, c.notes, c.events⟩

theorem Construction.recast_ofView (v : View σ τ) (construction : Construction σ) :
    construction.recast (.ofView v) = construction.map v.see := by
  have node : TestNode.recast (.ofView v) = id := rfl
  have graph : DependencyGraph.recast (.ofView v) = id := by
    funext g
    rw [DependencyGraph.recast, node, List.map_id]
    rfl
  have result : construction.result.map id = construction.result := by cases construction.result <;> rfl
  rw [recast, node, graph, List.map_id, result]
  rfl

/-- Over a transport that is seen as another one, building comes to the same. -/
theorem build_map (v : View σ τ) (r : Registry) (selected : List TestDefinition) (equipment : Equipment σ) :
    build r setup selected (equipment.map v.see) = (build r setup selected equipment).map v.see := by
  have tests : selected.map (Recast.ofView v).test = selected := List.map_id' _
  have recast : build (r.recast (.ofView v)) setup (selected.map (Recast.ofView v).test) (equipment.map v.see) = _ :=
    build_recast (.ofView v) r selected equipment
  rwa [Registry.recast_ofView, tests, Construction.recast_ofView] at recast

end DependencyGraph

/-! ### Other bodies -/

/-- What becomes of the bodies of each test. -/
abbrev Bodies := TestDefinition → Body → Body

def TestDefinition.withBodies (bodies : Bodies) (d : TestDefinition) : TestDefinition :=
  { d with factory := fun setup => (d.factory setup).withBody (bodies d) }

/-- The tests with other bodies. -/
def Recast.ofBodies (σ : Type) [Transport σ] (bodies : Bodies) : Recast σ σ where
  test := TestDefinition.withBodies bodies
  fixture d f := f.withBody (bodies d)
  see e := e
  name_eq _ := rfl
  requires_eq _ := rfl
  deps_eq _ := rfl
  extraRequires_eq _ _ := rfl
  make_eq setup d w := (d.factory setup).run_withBody (bodies d) w

end Conformance
