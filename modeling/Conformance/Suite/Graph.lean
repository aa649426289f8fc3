import Conformance.Suite.Registry

/-!
The dependency graph of a selection of tests. A test depends on the providers of the properties that
it requires, and on the tests that its definition names; what it requires is known once its factory has
made its fixture. Every test that the selection reaches becomes one node, in the order in which the
fixtures are made, and a test that is reached again on its own path closes a cycle.
-/

namespace Conformance

structure TestNode where
  definition : TestDefinition
  fixture : Fixture
  requires : SortedSet String

namespace TestNode

def name (n : TestNode) : String := n.definition.name

/-- The node of a test, with what both the definition and the fixture require. -/
def ofFixture (d : TestDefinition) (fixture : Fixture) : TestNode :=
  ⟨d, fixture, d.requires.insertMany fixture.extraRequires⟩

end TestNode

structure DependencyGraph where
  nodes : List TestNode
  /-- The nodes that each node depends on, by index. -/
  edges : SortedMap Nat (SortedSet Nat)
deriving Inhabited

namespace DependencyGraph

def empty : DependencyGraph := ⟨[], ∅⟩

def size (g : DependencyGraph) : Nat := g.nodes.length

def isEmpty (g : DependencyGraph) : Bool := g.nodes.isEmpty

def edgeCount (g : DependencyGraph) : Nat := g.edges.values.foldl (fun count targets => count + targets.size) 0

def node? (g : DependencyGraph) (index : Nat) : Option TestNode := g.nodes[index]?

def nameAt (g : DependencyGraph) (index : Nat) : String := ((g.node? index).map TestNode.name).getD ""

def indexOf? (g : DependencyGraph) (name : String) : Option Nat :=
  g.nodes.findIdx? fun n => n.name == name

def namedEdges (g : DependencyGraph) : SortedMap String (SortedSet String) :=
  .ofList (g.edges.entries.map fun (index, targets) =>
    (g.nameAt index, .ofList (targets.toList.map g.nameAt)))

end DependencyGraph

structure Builder (σ : Type) where
  /-- The index of every test that has been met. -/
  memo : SortedMap String Nat
  graph : DependencyGraph
  /-- The tests whose fixtures have been made, in that order. -/
  made : List TestNode
  workshop : Workshop σ

namespace Registry

/-- The tests that provide the properties; fails for the first property that no test provides. -/
def providersOf (r : Registry) (requiredBy : String) : List String → Except SuiteError (List String)
  | [] => .ok []
  | property :: rest =>
    match r.providerOf? property with
    | none => .error (.missingProperty property requiredBy)
    | some provider => (r.providersOf requiredBy rest).map (provider.name :: ·)

def dependenciesOf (r : Registry) (n : TestNode) : Except SuiteError (SortedSet String) :=
  match r.providersOf n.name n.requires.toList with
  | .error error => .error error
  | .ok providers =>
    match n.definition.deps.toList.find? fun dep => !r.contains dep with
    | some dep => .error (.unknownDependency dep n.name)
    | none => .ok (SortedSet.ofList (providers ++ n.definition.deps.toList))

/-- The number of registered tests that are not on the path. -/
def unvisited (r : Registry) (path : List String) : Nat :=
  (r.definitions.filter fun d => d.name ∉ path).length

/-- A registered test that is put on the path leaves fewer of them off it. -/
theorem unvisited_lt {r : Registry} {name : String} {d : TestDefinition} {path : List String}
    (fresh : name ∉ path) (found : r.require name = .ok d) :
    r.unvisited (path ++ [name]) < r.unvisited path := by
  obtain ⟨member, rfl⟩ := get?_name (require_eq_ok found)
  have further : r.definitions.filter (fun x => x.name ∉ path ++ [d.name]) =
      (r.definitions.filter fun x => x.name ∉ path).filter fun x => x.name ≠ d.name := by
    rw [List.filter_filter]
    congr 1
    funext x
    simp [and_comm]
  rw [unvisited, unvisited, further]
  exact List.length_filter_lt_length_iff_exists.mpr ⟨d, by simp [member, fresh], by simp⟩

end Registry

namespace Builder

variable {σ : Type}

def start (equipment : Equipment σ) : Builder σ := ⟨∅, .empty, [], .open equipment⟩

/-- Meets a test for the first time: its fixture is made, and its index is the next one. -/
def enter [Transport σ] (b : Builder σ) (setup : TestSetup) (d : TestDefinition) : TestNode × Builder σ :=
  let (fixture, workshop) := d.make setup b.workshop
  let n := TestNode.ofFixture d fixture
  (n, { b with memo := b.memo.insert d.name b.graph.size, made := b.made ++ [n], workshop })

def pushNode (b : Builder σ) (n : TestNode) : Builder σ :=
  { b with graph := { b.graph with nodes := b.graph.nodes ++ [n] } }

def setEdges (b : Builder σ) (index : Nat) (targets : SortedSet Nat) : Builder σ :=
  { b with graph := { b.graph with edges := b.graph.edges.insert index targets } }

mutual

/--
Brings a test and all that it depends on into the graph and gives its index. `path` leads from the
selected test to this one, which is its last member.
-/
def instantiate [Transport σ] (r : Registry) (setup : TestSetup) (path : List String) (d : TestDefinition)
    (b : Builder σ) : Except SuiteError Nat × Builder σ :=
  match b.memo.get? d.name with
  | some index => (.ok index, b)
  | none =>
    let index := b.graph.size
    let (n, b) := b.enter setup d
    match r.dependenciesOf n with
    | .error error => (.error error, b)
    | .ok dependencies =>
      match resolve r setup path dependencies.toList ∅ (b.pushNode n) with
      | (.error error, b) => (.error error, b)
      | (.ok targets, b) => (.ok index, b.setEdges index targets)
termination_by (r.unvisited path, 1, 0)

/-- Brings the named tests into the graph, one after the other, and adds their indices to the targets. -/
def resolve [Transport σ] (r : Registry) (setup : TestSetup) (path : List String) (names : List String)
    (targets : SortedSet Nat) (b : Builder σ) : Except SuiteError (SortedSet Nat) × Builder σ :=
  match names with
  | [] => (.ok targets, b)
  | name :: rest =>
    if _fresh : name ∈ path then
      (.error (.circularDependency (path.dropWhile (· ≠ name))), b)
    else
      match _found : r.require name with
      | .error error => (.error error, b)
      | .ok d =>
        match instantiate r setup (path ++ [name]) d b with
        | (.error error, b) => (.error error, b)
        | (.ok index, b) => resolve r setup path rest (targets.insert index) b
termination_by (r.unvisited path, 0, names.length)
decreasing_by
  · exact Prod.Lex.left _ _ (Registry.unvisited_lt _fresh _found)
  · exact Prod.Lex.right _ (Prod.Lex.right _ (Nat.lt_succ_self _))

end

/-- Brings the selected tests into the graph, up to the first that fails. -/
def selectAll [Transport σ] (r : Registry) (setup : TestSetup) :
    List TestDefinition → Builder σ → Except SuiteError Unit × Builder σ
  | [], b => (.ok (), b)
  | d :: rest, b =>
    match instantiate r setup [d.name] d b with
    | (.error error, b) => (.error error, b)
    | (.ok _, b) => selectAll r setup rest b

end Builder

namespace DependencyGraph

/-- What came of building a graph, with what was done on the way even if it failed. -/
structure Construction (σ : Type) where
  result : Except SuiteError DependencyGraph
  /-- The tests whose fixtures have been made, in that order. -/
  made : List TestNode
  /-- The equipment as the factories have left it. -/
  equipment : Equipment σ
  notes : List Note
  events : List Event

def Construction.built (c : Construction σ) : List String := c.made.map TestNode.name

/-- The graph of the selected tests and all that they depend on. -/
def build [Transport σ] (r : Registry) (setup : TestSetup) (selected : List TestDefinition)
    (equipment : Equipment σ) : Construction σ :=
  let (selection, b) := Builder.selectAll r setup selected (.start equipment)
  let (result, report) : Except SuiteError DependencyGraph × List Event := match selection with
    | .error error => (.error error, [])
    | .ok () => (.ok b.graph, [.graphBuilt b.graph.size b.graph.edgeCount])
  ⟨result, b.made, b.workshop.toEquipment, b.workshop.notes.toList, b.workshop.events.toList ++ report⟩

end DependencyGraph

end Conformance
