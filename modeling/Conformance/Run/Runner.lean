import Conformance.Run.Turn
import Conformance.Suite.Order

/-!
The runner of a suite: it holds the settings, the catalog, the registered tests, and the equipment that
factories and bodies work with. A run selects tests, orders them with all that they depend on, and lets
each of them have its turn.
-/

namespace Conformance

/-- Which tests to run. -/
structure RunOptions where
  /-- The only tests to run, if not all; what they depend on runs too. -/
  whitelist : Option (SortedSet String)
  skipFactoryDefaults : Bool

/-- The tests that put a responder back into the state in which it left the factory. -/
def factoryDefaultsTests : List String := ["ResetFactoryDefaults", "ResetFactoryDefaultsWithData"]

structure Runner (σ : Type) extends Equipment σ where
  settings : Settings
  catalog : Catalog
  registry : Registry

/-- What a run came to; the runner goes on from where the run left it. -/
structure RunResult (σ : Type) where
  result : Except SuiteError RunOutcome
  runner : Runner σ
  progress : List (Nat × Nat)
  notes : List Note
  events : List Event

namespace Runner

variable {σ : Type}

def new (settings : Settings) (catalog : Catalog) (transport : σ) : Runner σ where
  transport
  clock := 0
  timing := .empty
  memory := ∅
  settings
  catalog
  registry := .empty

def setup (r : Runner σ) : TestSetup := .ofSettings r.settings r.catalog

def fetcher (r : Runner σ) : Except SuiteError Fetcher :=
  match Fetcher.new r.settings.universeId r.settings.uid r.catalog r.settings.queuedMessageLimit
      r.settings.ackTimerLimit with
  | .ok fetcher => .ok fetcher
  | .error name => .error (.unknownParameter name)

def unknownTests (r : Runner σ) (options : RunOptions) : List String :=
  match options.whitelist with
  | none => []
  | some names => names.toList.filter fun name => !r.registry.contains name

/-- The tests that are asked for, in the order in which they were registered. -/
def candidates (r : Runner σ) (options : RunOptions) : List TestDefinition :=
  let listed := match options.whitelist with
    | none => r.registry.definitions
    | some names => r.registry.definitions.filter fun d => d.name ∈ names
  if options.skipFactoryDefaults then listed.filter fun d => d.name ∉ factoryDefaultsTests else listed

def plan (r : Runner σ) (fetcher : Fetcher) (debug : Bool) (total : Nat) : RunPlan :=
  ⟨fetcher, r.settings.interTestDelay, r.settings.timestamp, debug, total⟩

def world (r : Runner σ) : World σ :=
  { r.toEquipment with store := .declaring r.registry.providedProperties }

def resume (r : Runner σ) (equipment : Equipment σ) : Runner σ := { r with toEquipment := equipment }

/-- The outcome of a run whose turns have all been taken. -/
def outcome (r : Runner σ) (options : RunOptions) (startedAt : Timestamp) (turns : List (Turn σ))
    (last : World σ) : RunOutcome where
  startedAt
  duration := .ofNanos (last.clock - r.clock)
  tests := turns.map Turn.record
  properties := last.store.values
  unknownTests := r.unknownTests options

def runOrdered [Transport σ] (r : Runner σ) (options : RunOptions) (startedAt : Timestamp) (debug : Bool)
    (fetcher : Fetcher) (nodes : List TestNode) : RunResult σ :=
  let turns := Turn.takeAll (r.plan fetcher debug nodes.length) nodes 0 r.world
  let last := (turns.getLast?.map Turn.world).getD r.world
  let outcome := r.outcome options startedAt turns last
  { result := .ok outcome
    runner := r.resume last.toEquipment
    progress := turns.map Turn.progress
    notes := turns.flatMap Turn.notes
    events := .orderDecided (nodes.map TestNode.name) :: turns.flatMap Turn.events ++
      [.runComplete outcome.summary] }

/-- Makes the fixtures of the tests that are asked for and of all that they depend on. -/
def construct [Transport σ] (r : Runner σ) (options : RunOptions) : DependencyGraph.Construction σ :=
  DependencyGraph.build r.registry r.setup (r.candidates options) r.toEquipment

/-- The runner with its equipment as the factories have left it. -/
def furnish [Transport σ] (r : Runner σ) (options : RunOptions) : Runner σ := r.resume (r.construct options).equipment

/--
Runs the tests. A run that cannot be set up drains nothing and carries out no body, but the factories that were
called have done what they do; `debug` tells whether the log shows debug lines.
-/
def run [Transport σ] (r : Runner σ) (options : RunOptions) (startedAt : Timestamp) (debug : Bool) :
    RunResult σ :=
  match r.fetcher with
  | .error error => ⟨.error error, r, [], [], []⟩
  | .ok fetcher =>
    let unknown := (r.unknownTests options).map Event.unknownTest
    let construction := r.construct options
    let furnished := r.resume construction.equipment
    match construction.result with
    | .error error => ⟨.error error, furnished, [], construction.notes, unknown ++ construction.events⟩
    | .ok graph =>
      let order := Order.ofEdges graph.edges
      let ran := furnished.runOrdered options startedAt debug fetcher (order.nodes.filterMap graph.node?)
      { ran with
        notes := construction.notes ++ ran.notes
        events := unknown ++ construction.events ++ order.events ++ ran.events }

end Runner

end Conformance
