import Conformance.Proofs.Run.Turn
import Conformance.Proofs.Suite.Schedule
import Conformance.Run.Runner
import Conformance.Transport.Script

/-!
# Which tests a run takes, and when

`Runner.run_eq_ok` is what stands behind an outcome: a graph that represents the selection, and one
turn for each of its nodes. `run_order` reads the order of the outcome off it.
-/

namespace Conformance.Runner

open Relation

variable {σ : Type} {r : Runner σ} {options : RunOptions} {startedAt : Timestamp} {debug : Bool}
  {outcome : RunOutcome}

/-- The run is asked for the test: it is registered, on the whitelist if there is one, and not one of those
that restore the factory defaults if these are to be skipped. -/
structure Asked (r : Runner σ) (options : RunOptions) (d : TestDefinition) : Prop where
  registered : d ∈ r.registry.definitions
  listed : ∀ names, options.whitelist = some names → d.name ∈ names
  kept : options.skipFactoryDefaults = true → d.name ∉ factoryDefaultsTests

/-- Without a whitelist and with nothing to be skipped, a run is asked for all registered tests. -/
theorem Asked.of_registered {d : TestDefinition} (registered : d ∈ r.registry.definitions) :
    r.Asked ⟨none, false⟩ d := ⟨registered, nofun, nofun⟩

theorem mem_candidates {d : TestDefinition} : d ∈ r.candidates options ↔ r.Asked options d := by
  have spelled : r.Asked options d ↔ d ∈ r.registry.definitions ∧
      (∀ names, options.whitelist = some names → d.name ∈ names) ∧
      (options.skipFactoryDefaults = true → d.name ∉ factoryDefaultsTests) :=
    ⟨fun ⟨registered, listed, kept⟩ => ⟨registered, listed, kept⟩,
      fun ⟨registered, listed, kept⟩ => ⟨registered, listed, kept⟩⟩
  rw [spelled, candidates]
  cases options.whitelist <;> cases options.skipFactoryDefaults <;> simp [and_comm]

theorem registered_of_candidate (r : Runner σ) (options : RunOptions) :
    ∀ d ∈ r.candidates options, d ∈ r.registry.definitions :=
  fun _ member => (mem_candidates.mp member).registered

theorem mem_unknownTests {name : String} :
    name ∈ r.unknownTests options ↔
      (∃ names, options.whitelist = some names ∧ name ∈ names) ∧
        ∀ d ∈ r.registry.definitions, d.name ≠ name := by
  have absent : (!r.registry.contains name) = true ↔ ∀ d ∈ r.registry.definitions, d.name ≠ name := by
    rw [← Registry.get?_eq_none_iff, Bool.not_eq_true', ← Bool.not_eq_true, Registry.contains_iff,
      Option.eq_none_iff_forall_ne_some, not_exists]
  unfold unknownTests
  cases options.whitelist with
  | none => simp
  | some names =>
    rw [List.mem_filter, absent]
    simp [SortedSet.mem_def]

theorem pairwise_unknownTests : (r.unknownTests options).Pairwise (· < ·) := by
  unfold unknownTests
  split
  · exact .nil
  · next names _ => exact names.sorted.filter _

/-- The fetcher needs both of its parameters; the first that is missing is named. -/
theorem fetcher_cases (r : Runner σ) :
    (r.catalog.getByName? "QUEUED_MESSAGE" = none ∧ r.fetcher = .error (.unknownParameter "QUEUED_MESSAGE")) ∨
      (r.catalog.getByName? "QUEUED_MESSAGE" ≠ none ∧ r.catalog.getByName? "STATUS_MESSAGES" = none ∧
        r.fetcher = .error (.unknownParameter "STATUS_MESSAGES")) ∨
      ∃ queued status, r.catalog.getByName? "QUEUED_MESSAGE" = some queued ∧
        r.catalog.getByName? "STATUS_MESSAGES" = some status ∧
        r.fetcher = .ok ⟨⟨queued.id, status.id⟩,
          .queuedMessage r.settings.universeId r.settings.uid queued.id .advisory,
          r.settings.queuedMessageLimit, r.settings.ackTimerLimit⟩ := by
  unfold Runner.fetcher Fetcher.new QueueParameters.ofCatalog
  cases r.catalog.getByName? "QUEUED_MESSAGE" with
  | none => exact .inl ⟨rfl, rfl⟩
  | some queued =>
    cases r.catalog.getByName? "STATUS_MESSAGES" with
    | none => exact .inr (.inl ⟨nofun, rfl, rfl⟩)
    | some status => exact .inr (.inr ⟨queued, status, rfl, rfl, rfl⟩)

section Run

variable [Transport σ]

/-- The fixtures that are made in the run. -/
def fixtures (r : Runner σ) (options : RunOptions) : Fixtures := (r.construct options).fixtures

/-- The world in which the first turn begins: the factories have done what they do. -/
def start (r : Runner σ) (options : RunOptions) : World σ := (r.furnish options).world

/-- The turns of a run over the given nodes. -/
def turns (r : Runner σ) (options : RunOptions) (fetcher : Fetcher) (debug : Bool) (nodes : List TestNode) :
    List (Turn σ) :=
  Turn.takeAll (r.plan fetcher debug nodes.length) nodes 0 (r.start options)

/-- Behind an outcome there are a graph that represents the selection and one turn for each node of it. -/
theorem run_eq_ok (built : r.registry.Built) (completed : (r.run options startedAt debug).result = .ok outcome) :
    ∃ fetcher g, (r.construct options).result = .ok g ∧
      g.Represents r.registry (r.fixtures options) (r.candidates options) ∧
      outcome = (r.furnish options).outcome options startedAt
        (r.turns options fetcher debug ((Order.ofEdges g.edges).nodes.filterMap g.node?))
        (Turn.final (r.turns options fetcher debug ((Order.ofEdges g.edges).nodes.filterMap g.node?))
          (r.start options)) := by
  unfold run at completed
  split at completed
  · cases completed
  · next fetcher _ =>
    dsimp only at completed
    split at completed
    · cases completed
    · next g constructed =>
      have represents := DependencyGraph.represents_of_build built (registered_of_candidate r options) constructed
      exact ⟨fetcher, g, constructed, represents, (Except.ok.inj completed).symm⟩

/-- A run succeeds if its fetcher is known and all that it is asked for settles, whatever the factories do. -/
theorem exists_outcome {fixtures : Fixtures} (built : r.registry.Built) {fetcher : Fetcher}
    (known : r.fetcher = .ok fetcher) (always : DependencyGraph.AsksAlways σ r.registry r.setup fixtures)
    (settles : ∀ d, r.Asked options d → r.registry.Settles fixtures d) :
    ∃ outcome, (r.run options startedAt debug).result = .ok outcome := by
  have exists_graph := always.exists_graph_iff built (registered_of_candidate r options) r.toEquipment
  obtain ⟨g, constructed⟩ : ∃ g, (r.construct options).result = .ok g := exists_graph.mpr (by
    rintro t ⟨root, member, path⟩
    have below := (settles root (mem_candidates.mp member)).reaches path
    exact ⟨below.resolves, below.acyclic⟩)
  unfold run
  simp only [known, constructed]
  exact ⟨_, rfl⟩

omit [Transport σ] in
theorem order_outcome (turns : List (Turn σ)) (last : World σ) :
    (r.outcome options startedAt turns last).order = (turns.map Turn.node).map TestNode.name := by
  rw [RunOutcome.order, outcome, List.map_map, List.map_map]
  rfl

theorem map_node_turns {fetcher : Fetcher} (nodes : List TestNode) :
    (r.turns options fetcher debug nodes).map Turn.node = nodes :=
  Turn.map_node_takeAll _ nodes _ _

/--
A run takes just the tests that those it is asked for lead to, each once and after all that it depends
on, and no node of the graph is dropped on the way. The unknown tests are the names on the whitelist
that no test has.
-/
theorem run_order (built : r.registry.Built) (completed : (r.run options startedAt debug).result = .ok outcome) :
    (∀ name, name ∈ outcome.order ↔
        ∃ asked t, r.Asked options asked ∧ ReflTransGen (r.registry.DependsOn (r.fixtures options)) asked t ∧
          t.name = name) ∧
      outcome.order.Nodup ∧
      (∀ t ∈ r.registry.definitions, t.name ∈ outcome.order → ∀ u, r.registry.DependsOn (r.fixtures options) t u →
        u.name ∈ outcome.order ∧ outcome.order.idxOf u.name < outcome.order.idxOf t.name) ∧
      (∃ g, (r.construct options).result = .ok g ∧
        (∀ i, i ∈ (Order.ofEdges g.edges).nodes ↔ i < g.size) ∧
        (Order.ofEdges g.edges).nodes.map (fun i => (g.node? i).map TestNode.name) = outcome.order.map some) ∧
      (∀ name, name ∈ outcome.unknownTests ↔
        (∃ names, options.whitelist = some names ∧ name ∈ names) ∧ ∀ d ∈ r.registry.definitions, d.name ≠ name) ∧
      outcome.unknownTests.Pairwise (· < ·) := by
  obtain ⟨fetcher, g, constructed, represents, rfl⟩ := run_eq_ok built completed
  have scheduled := represents.scheduled
  rw [order_outcome, map_node_turns]
  have reached : ∀ t, r.registry.Reached (r.fixtures options) (r.candidates options) t ↔
      ∃ asked, r.Asked options asked ∧ ReflTransGen (r.registry.DependsOn (r.fixtures options)) asked t := by
    intro t
    simp only [Registry.Reached, mem_candidates]
  refine ⟨fun name => ?_, scheduled.names_nodup, fun t registered taken u depends => ?_,
    ⟨g, constructed, fun i => represents.mem_order, ?_⟩, fun name => mem_unknownTests, pairwise_unknownTests⟩
  · rw [scheduled.mem_names_iff]
    simp only [reached]
    constructor
    · rintro ⟨t, ⟨asked, from_, path⟩, named⟩
      exact ⟨asked, t, from_, path, named⟩
    · rintro ⟨asked, t, from_, path, named⟩
      exact ⟨t, ⟨asked, from_, path⟩, named⟩
  · obtain ⟨d, reachedD, named⟩ := scheduled.mem_names_iff.mp taken
    have registeredD := reachedD.registered built (registered_of_candidate r options)
    have same : d = t := built.eq_of_name registeredD registered named
    subst same
    exact ⟨scheduled.mem_names_iff.mpr ⟨u, reachedD.step depends, rfl⟩, scheduled.idxOf_lt reachedD depends⟩
  · have held := congrArg (List.map (Option.map TestNode.name)) represents.map_node?
    rw [List.map_map, List.map_map] at held
    rw [List.map_map]
    exact held

end Run

/-! ### A suite of two tests -/

/-- Sets a property, and is one of the tests that may be skipped. -/
def resetTest : TestDefinition :=
  ⟨"ResetFactoryDefaults", "", .ofList ["reset"], ∅, ∅,
    fun _ => .ofBody (.write "reset" (.bool true) (.done .passed))⟩

/-- Passes if the property is set. -/
def afterReset : TestDefinition :=
  ⟨"AfterReset", "", ∅, .ofList ["reset"], ∅,
    fun _ => .ofBody (.read "reset" fun value => .done (if value.isSome then .passed else .failed))⟩

/-- Fixtures that ask for nothing. -/
def modest : Fixtures := fun _ => .ofBody (.done .passed)

theorem afterReset_dependsOn {registry : Registry} {fixtures : Fixtures} (built : registry.Built)
    (known : resetTest ∈ registry.definitions) : registry.DependsOn fixtures afterReset resetTest :=
  .provider (.inl List.mem_cons_self) (built.providerOf?_eq_some_iff.mpr ⟨known, List.mem_cons_self⟩)

theorem settles_of_reset {registry : Registry} {reset d : TestDefinition}
    (built : registry.Built) (known : reset ∈ registry.definitions) (provides : "reset" ∈ reset.provides)
    (requires : ∀ property, property ∉ reset.requires) (deps : ∀ name, name ∉ reset.deps)
    (either : d = reset ∨ d = afterReset) : registry.Settles modest d := by
  have first : registry.Settles modest reset := .of_free (by
    rintro property (required | ⟨⟨⟩⟩)
    exact requires property required) deps
  rcases either with rfl | rfl
  · exact first
  · have provided := built.providerOf?_eq_some_iff.mpr ⟨known, provides⟩
    have only : ∀ property, Registry.Requires modest afterReset property → property = "reset" := by
      rintro property (required | ⟨⟨⟩⟩)
      exact List.mem_singleton.mp required
    refine .intro ⟨fun property required => ⟨reset, only property required ▸ provided⟩, nofun⟩ ?_
    rintro u (⟨required, found⟩ | ⟨⟨⟨⟩⟩, -⟩)
    rw [only _ required, provided] at found
    exact Option.some.inj found ▸ first

/-- Such a suite can be run, also with another test in the place of the reset that asks for as little. -/
theorem exists_outcome_of_pair {r : Runner Script} {options : RunOptions} {startedAt : Timestamp} {debug : Bool}
    {reset : TestDefinition} {fetcher : Fetcher} (built : r.registry.Built) (drains : r.fetcher = .ok fetcher)
    (known : reset ∈ r.registry.definitions) (either : ∀ d ∈ r.registry.definitions, d = reset ∨ d = afterReset)
    (provides : "reset" ∈ reset.provides) (requires : ∀ property, property ∉ reset.requires)
    (deps : ∀ name, name ∉ reset.deps) (plain : ∀ w : Workshop Script, (reset.make r.setup w).1.extraRequires = []) :
    ∃ outcome, (r.run options startedAt debug).result = .ok outcome := by
  have always : DependencyGraph.AsksAlways Script r.registry r.setup modest := by
    intro d member w
    rcases either d member with rfl | rfl
    · exact plain w
    · rfl
  exact exists_outcome built drains always fun d asked =>
    settles_of_reset built known provides requires deps (either d asked.registered)

/-- The reset is to be skipped and is not listed, but the listed test requires what it provides. -/
theorem run_order_of_required_reset :
    let runner : Runner Script :=
      { new .default .standard (.ofReplies []) with
        registry := (Registry.empty.registerAll [afterReset, resetTest] 0).registry }
    let options : RunOptions := ⟨some (.ofList ["AfterReset", "Missing"]), true⟩
    runner.registry.Built ∧ ∃ outcome, (runner.run options default false).result = .ok outcome ∧
      outcome.order.idxOf "ResetFactoryDefaults" < outcome.order.idxOf "AfterReset" ∧
      "ResetFactoryDefaults" ∈ outcome.order ∧ "Missing" ∈ outcome.unknownTests := by
  intro runner options
  have built : runner.registry.Built := .registerAll .empty _ _
  have definitions : runner.registry.definitions = [afterReset, resetTest] := rfl
  have known : resetTest ∈ runner.registry.definitions := List.mem_cons_of_mem _ List.mem_cons_self
  have either : ∀ d ∈ runner.registry.definitions, d = resetTest ∨ d = afterReset :=
    fun d member => (List.mem_pair.mp (definitions ▸ member)).symm
  obtain ⟨outcome, completed⟩ : ∃ outcome, (runner.run options default false).result = .ok outcome :=
    exists_outcome_of_pair built rfl known either List.mem_cons_self nofun nofun fun _ => rfl
  obtain ⟨order, -, later, -, unknown, -⟩ := run_order built completed
  have asked : runner.Asked options afterReset := by
    refine ⟨List.mem_cons_self, ?_, fun _ => by decide⟩
    rintro names ⟨⟩
    decide
  have taken := (order "AfterReset").mpr ⟨afterReset, afterReset, asked, .refl, rfl⟩
  obtain ⟨also, earlier⟩ := later afterReset List.mem_cons_self taken resetTest (afterReset_dependsOn built known)
  refine ⟨built, outcome, completed, earlier, also, (unknown "Missing").mpr ⟨⟨_, rfl, by decide⟩, ?_⟩⟩
  rw [definitions]
  decide

end Conformance.Runner
