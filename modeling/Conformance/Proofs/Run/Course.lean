import Conformance.Proofs.Run.Selection
import Conformance.Proofs.Run.Store

/-!
# The course of a run

`Runner.course` gives the legs of a run. Behind an outcome they are the turns of the scheduled tests, each
of which begins where the one before it ended (`run_course`), so the records and the properties of the
outcome can be read off them (`exists_course`).
-/

namespace Conformance.Runner

variable {σ : Type} [Transport σ] {r : Runner σ} {options : RunOptions} {startedAt : Timestamp} {debug : Bool}
  {outcome : RunOutcome}

/-- The legs of the run, if it can be set up. -/
def course (r : Runner σ) (options : RunOptions) (debug : Bool) : List (Leg σ) :=
  match r.fetcher, (r.construct options).result with
  | .ok fetcher, .ok g =>
    Leg.ofTurns (r.start options) (r.turns options fetcher debug ((Order.ofEdges g.edges).nodes.filterMap g.node?))
  | _, _ => []

/-- A run with an outcome is that of the scheduled tests in their order, after what setting it up has left. -/
theorem run_eq (built : r.registry.Built) (completed : (r.run options startedAt debug).result = .ok outcome) :
    ∃ fetcher nodes, r.fetcher = .ok fetcher ∧
      r.registry.Scheduled (r.fixtures options) (r.candidates options) nodes ∧
      r.course options debug = Leg.ofTurns (r.start options) (r.turns options fetcher debug nodes) ∧
      ((r.furnish options).runOrdered options startedAt debug fetcher nodes).result = .ok outcome ∧
      r.run options startedAt debug =
        { (r.furnish options).runOrdered options startedAt debug fetcher nodes with
          notes := (r.construct options).notes ++
            ((r.furnish options).runOrdered options startedAt debug fetcher nodes).notes
          events := (r.unknownTests options).map .unknownTest ++
            (r.construct options).events ++
            ((r.furnish options).runOrdered options startedAt debug fetcher nodes).events } := by
  obtain ⟨_, g, constructed, represents, -⟩ := run_eq_ok built completed
  cases known : r.fetcher with
  | error error =>
    unfold run at completed
    rw [known] at completed
    cases completed
  | ok fetcher =>
    refine ⟨fetcher, _, rfl, represents.scheduled, ?_, ?_, ?_⟩
    · unfold course
      rw [known, constructed]
    · unfold run at completed
      simp only [known, constructed] at completed
      exact completed
    · unfold run
      simp only [known, constructed, represents.order_eq, List.append_nil]
      rfl

/-- A run with an outcome takes the scheduled tests in their order. -/
theorem run_course (built : r.registry.Built) (completed : (r.run options startedAt debug).result = .ok outcome) :
    ∃ fetcher nodes, r.fetcher = .ok fetcher ∧
      r.registry.Scheduled (r.fixtures options) (r.candidates options) nodes ∧
      r.course options debug = Leg.ofTurns (r.start options) (r.turns options fetcher debug nodes) ∧
      ((r.furnish options).runOrdered options startedAt debug fetcher nodes).result = .ok outcome ∧
      (r.run options startedAt debug).progress = (r.turns options fetcher debug nodes).map Turn.progress := by
  obtain ⟨fetcher, nodes, known, scheduled, legs, ended, whole⟩ := run_eq built completed
  exact ⟨fetcher, nodes, known, scheduled, legs, ended, congrArg RunResult.progress whole⟩

/-- The legs of a run lead to a world that the outcome and the runner then show, and their logs follow in order. -/
theorem exists_last (built : r.registry.Built) (completed : (r.run options startedAt debug).result = .ok outcome) :
    ∃ fetcher last, r.fetcher = .ok fetcher ∧
      Leg.Course r.registry (r.fixtures options) (r.candidates options) (r.plan fetcher debug outcome.tests.length)
        (r.start options) (r.course options debug) last ∧
      outcome.tests = (r.course options debug).map (fun leg => leg.turn.record) ∧
      outcome.properties = last.store.values ∧
      (r.run options startedAt debug).runner = r.resume last.toEquipment ∧
      (r.run options startedAt debug).events = (r.unknownTests options).map .unknownTest ++
        (r.construct options).events ++
        (.orderDecided outcome.order :: (r.course options debug).flatMap (fun leg => leg.turn.events) ++
          [.runComplete outcome.summary]) := by
  obtain ⟨fetcher, nodes, known, scheduled, legs, ended, whole⟩ := run_eq built completed
  have same : (r.furnish options).outcome options startedAt (r.turns options fetcher debug nodes)
      (Turn.final (r.turns options fetcher debug nodes) (r.start options)) = outcome := Except.ok.inj ended
  have turns : (r.course options debug).map Leg.turn = r.turns options fetcher debug nodes := by
    rw [legs, Leg.map_turn_ofTurns]
  have tests : outcome.tests = (r.turns options fetcher debug nodes).map Turn.record := by rw [← same, Runner.outcome]
  have total : outcome.tests.length = nodes.length := by
    rw [tests, List.length_map, ← List.length_map Turn.node, map_node_turns]
  refine ⟨fetcher, Turn.final (r.turns options fetcher debug nodes) (r.start options), known, ?_, ?_, ?_, ?_, ?_⟩
  · rw [legs, total]
    exact Turn.course scheduled _ 0 (r.start options)
  · rw [tests, ← turns, List.map_map]
    rfl
  · rw [← same]
    rfl
  · exact congrArg RunResult.runner whole
  · have order : outcome.order = nodes.map TestNode.name := by rw [← same, order_outcome, map_node_turns]
    rw [whole, order, ← same, ← List.flatMap_map, turns]
    rfl

theorem exists_course (built : r.registry.Built)
    (completed : (r.run options startedAt debug).result = .ok outcome) :
    ∃ p last, Leg.Course r.registry (r.fixtures options) (r.candidates options) p (r.start options)
        (r.course options debug) last ∧
      outcome.tests = (r.course options debug).map (fun leg => leg.turn.record) ∧
      outcome.properties = last.store.values := by
  obtain ⟨fetcher, last, -, course, tests, properties, -⟩ := exists_last built completed
  exact ⟨_, last, course, tests, properties⟩

/-- The factory of every test that is taken has made its fixture. -/
theorem exists_make (built : r.registry.Built) (completed : (r.run options startedAt debug).result = .ok outcome)
    {leg : Leg σ} (member : leg ∈ r.course options debug) :
    ∃ w : Workshop σ,
      leg.turn.node = .ofFixture leg.turn.node.definition (leg.turn.node.definition.make r.setup w).1 := by
  obtain ⟨p, last, course, -, -⟩ := exists_course built completed
  obtain ⟨_, g, constructed, represents, -⟩ := run_eq_ok built completed
  obtain ⟨d, reached, atD⟩ := (course.scheduled.mem_iff _).mp (List.mem_map_of_mem member)
  have held : leg.turn.node ∈ g.nodes := (represents.nodes _).mpr ⟨d, reached, atD⟩
  have made := DependencyGraph.made_eq built (registered_of_candidate r options) constructed
  exact DependencyGraph.exists_make _ _ _ _ (made ▸ held)

/-- A factory that always makes the same fixture has made this one. -/
theorem fixtures_eq (built : r.registry.Built) (completed : (r.run options startedAt debug).result = .ok outcome)
    {leg : Leg σ} (member : leg ∈ r.course options debug) {d : TestDefinition}
    (atD : leg.turn.node = .ofDefinition (r.fixtures options) d) {fixture : Fixture}
    (always : ∀ w : Workshop σ, (d.make r.setup w).1 = fixture) : r.fixtures options d = fixture := by
  obtain ⟨w, made⟩ := exists_make built completed member
  rw [atD] at made
  exact (congrArg TestNode.fixture made).trans (always w)

theorem names_eq (built : r.registry.Built) (completed : (r.run options startedAt debug).result = .ok outcome) :
    outcome.order = ((r.course options debug).map fun leg => leg.turn.node).map TestNode.name := by
  obtain ⟨p, last, -, tests, -⟩ := exists_course built completed
  rw [RunOutcome.order, tests, List.map_map, List.map_map]
  rfl

theorem exists_leg_of_asked (built : r.registry.Built)
    (completed : (r.run options startedAt debug).result = .ok outcome) {d : TestDefinition}
    (asked : r.Asked options d) :
    ∃ leg ∈ r.course options debug, leg.turn.node = .ofDefinition (r.fixtures options) d := by
  obtain ⟨p, last, course, -, -⟩ := exists_course built completed
  exact List.mem_map.mp (course.scheduled.node_mem (.root (mem_candidates.mpr asked)))

theorem exists_record (built : r.registry.Built) (completed : (r.run options startedAt debug).result = .ok outcome)
    {d : TestDefinition} (asked : r.Asked options d) : ∃ record ∈ outcome.tests, record.name = d.name := by
  obtain ⟨leg, member, atD⟩ := exists_leg_of_asked built completed asked
  obtain ⟨p, last, -, tests, -⟩ := exists_course built completed
  refine ⟨leg.turn.record, tests ▸ List.mem_map_of_mem member, ?_⟩
  rw [Turn.record, atD]
  rfl

theorem exists_leg (built : r.registry.Built) (completed : (r.run options startedAt debug).result = .ok outcome)
    {record : TestRecord} (held : record ∈ outcome.tests) {d : TestDefinition}
    (known : d ∈ r.registry.definitions) (named : d.name = record.name) :
    ∃ leg ∈ r.course options debug,
      leg.turn.record = record ∧ leg.turn.node = .ofDefinition (r.fixtures options) d := by
  obtain ⟨p, last, course, tests, -⟩ := exists_course built completed
  rw [tests] at held
  obtain ⟨leg, member, rfl⟩ := List.mem_map.mp held
  obtain ⟨here, atLeg⟩ := course.node built (registered_of_candidate r options) member
  rw [← built.eq_of_name known here named] at atLeg
  exact ⟨leg, member, rfl, atLeg⟩

/-- A property is set at the end of a run if one of the tests has written it. -/
theorem properties_contains_iff (built : r.registry.Built)
    (completed : (r.run options startedAt debug).result = .ok outcome) {property : String} :
    outcome.properties.contains property = true ↔ ∃ leg ∈ r.course options debug, property ∈ leg.written := by
  obtain ⟨p, last, course, -, properties⟩ := exists_course built completed
  rw [properties]
  refine course.chain.contains_iff.trans ?_
  have unset : (r.start options).store.contains property = false := rfl
  simp [unset]

end Conformance.Runner
