import Conformance.Proofs.Run.Selection
import Conformance.Proofs.Run.Store

/-!
# Two runs of one suite

Whatever else differs between two runs, a test that both of them take comes to the same in both, if
tests read and write their own properties only. `Turn.turns_agree` goes along the dependencies: what a
test reads was provided by tests for which this is known already.
-/

namespace Conformance

/-- Whenever the factory of a test is called, it makes the given fixture. -/
def DependencyGraph.MakesAlways (σ : Type) [Transport σ] (r : Registry) (setup : TestSetup) (fixtures : Fixtures) :
    Prop :=
  ∀ d ∈ r.definitions, ∀ w : Workshop σ, (d.make setup w).1 = fixtures d

theorem DependencyGraph.MakesAlways.agrees {σ : Type} [Transport σ] {r : Registry} {setup : TestSetup}
    {fixtures : Fixtures} (always : MakesAlways σ r setup fixtures) {selected : List TestDefinition}
    (registered : ∀ d ∈ selected, d ∈ r.definitions) (equipment : Equipment σ) :
    (build r setup selected equipment).Agrees fixtures := by
  intro n member
  obtain ⟨w, made⟩ := exists_make r setup selected equipment member
  have known := (known_of_made r setup selected equipment member).elim id (registered _)
  rwa [always _ known] at made

/-- Registries with the same tests have the same dependencies. -/
theorem Registry.dependsOn_of_same {r r' : Registry} {fixtures : Fixtures} {t u : TestDefinition}
    (same : ∀ d, d ∈ r.definitions ↔ d ∈ r'.definitions) (built : r.Built) (built' : r'.Built)
    (depends : r.DependsOn fixtures t u) : r'.DependsOn fixtures t u := by
  have known : u ∈ r'.definitions := (same u).mp (depends.registered built)
  cases depends with
  | provider required provided =>
    have provides := (built.providerOf?_eq_some_iff.mp provided).2
    exact .provider required (built'.providerOf?_eq_some_iff.mpr ⟨known, provides⟩)
  | named named _ => exact .named named (built'.get?_eq_some_iff.mpr ⟨known, rfl⟩)

namespace Turn

variable {σ τ : Type} [Transport σ] [Transport τ] {r r' : Registry} {fixtures : Fixtures}
  {roots roots' : List TestDefinition} {nodes nodes' : List TestNode} {p q : RunPlan} {count count' : Nat}
  {w : World σ} {v : World τ}

theorem turns_agree (built : r.Built) (built' : r'.Built) (same : ∀ d, d ∈ r.definitions ↔ d ∈ r'.definitions)
    (reads : r.ReadsOwn fixtures) (own : r.WritesOwn fixtures) (registered : ∀ d ∈ roots, d ∈ r.definitions)
    (registered' : ∀ d ∈ roots', d ∈ r'.definitions) (scheduled : r.Scheduled fixtures roots nodes)
    (scheduled' : r'.Scheduled fixtures roots' nodes')
    (fresh : ∀ property, w.store.get? property = v.store.get? property) {d : TestDefinition}
    (settles : r.Settles fixtures d) {t : Turn σ} {t' : Turn τ} (member : t ∈ takeAll p nodes count w)
    (member' : t' ∈ takeAll q nodes' count' v) (atD : t.node = .ofDefinition fixtures d)
    (atD' : t'.node = .ofDefinition fixtures d) :
    t.Agrees t' ∧ ∀ property ∈ d.provides,
      (final (takeAll p nodes count w) w).store.get? property =
        (final (takeAll q nodes' count' v) v).store.get? property := by
  induction settles generalizing t t' with
  | @intro d resolves _ ih =>
    have here := node_mem member
    have here' := node_mem member'
    obtain ⟨last, completed, w', taken, found, mine⟩ := exists_turn built own registered scheduled member
    obtain ⟨last', completed', v', taken', found', mine'⟩ :=
      exists_turn built' (fun d known => own d ((same d).mpr known)) registered' scheduled' member'
    rw [atD] at here taken found mine
    rw [atD'] at here' taken' found' mine'
    have known : d ∈ r.definitions := (scheduled.registered built registered here).1
    have agree : ∀ property, (Registry.Requires fixtures d property ∨ property ∈ d.provides) →
        w'.store.get? property = v'.store.get? property := by
      rintro property (required | provides)
      · -- The provider has had its turn in both runs, and nobody else writes what it provides.
        obtain ⟨u, provided⟩ := resolves.providers property required
        have provides := (built.providerOf?_eq_some_iff.mp provided).2
        have depends : r.DependsOn fixtures d u := .provider required provided
        have depends' := Registry.dependsOn_of_same same built built' depends
        obtain ⟨a, memberA, atA⟩ : ∃ a ∈ takeAll p nodes count w, a.node = .ofDefinition fixtures u :=
          exists_turn_of_node (scheduled.dependency_mem here depends)
        obtain ⟨b, memberB, atB⟩ : ∃ b ∈ takeAll q nodes' count' v, b.node = .ofDefinition fixtures u :=
          exists_turn_of_node (scheduled'.dependency_mem here' depends')
        have lasting := (ih u depends memberA memberB atA atB).2 property provides
        rw [found u depends property provides, lasting, found' u depends' property provides]
      · rw [(mine property provides).1, (mine' property provides).1, fresh]
    have both : t.Agrees t' ∧ ∀ property, (Registry.Requires fixtures d property ∨ property ∈ d.provides) →
        t.world.store.get? property = t'.world.store.get? property := by
      rw [taken, taken']
      exact take_agrees (reads d known)
        (fun property required => .inl (Registry.mem_requires_ofDefinition.mp required)) agree
    obtain ⟨turns, stores⟩ := both
    refine ⟨turns, fun property provides => ?_⟩
    rw [← (mine property provides).2, ← (mine' property provides).2, stores property (.inr provides)]

end Turn

namespace Runner

variable {σ τ : Type} [Transport σ] [Transport τ] {r : Runner σ} {r' : Runner τ} {options options' : RunOptions}
  {startedAt startedAt' : Timestamp} {debug debug' : Bool} {outcome outcome' : RunOutcome}

/-- Behind an outcome there is a graph of the fixtures that the factories always make. -/
theorem run_represents {fixtures : Fixtures} (built : r.registry.Built)
    (always : DependencyGraph.MakesAlways σ r.registry r.setup fixtures)
    (completed : (r.run options startedAt debug).result = .ok outcome) :
    ∃ fetcher, ∃ g : DependencyGraph, g.Represents r.registry fixtures (r.candidates options) ∧
      outcome = (r.furnish options).outcome options startedAt
        (r.turns options fetcher debug ((Order.ofEdges g.edges).nodes.filterMap g.node?))
        (Turn.final (r.turns options fetcher debug ((Order.ofEdges g.edges).nodes.filterMap g.node?))
          (r.start options)) := by
  obtain ⟨fetcher, g, constructed, -, same⟩ := run_eq_ok built completed
  have registered := registered_of_candidate r options
  have sound := DependencyGraph.build_sound built registered (always.agrees registered r.toEquipment)
  rw [construct] at constructed
  rw [constructed] at sound
  exact ⟨fetcher, g, sound, same⟩

/--
Two runs of one suite, in which the factory of each test always makes the same fixture, agree on every test that
both of them take, in its state, its skip reason, its warnings and its properties: neither the other tests that were
selected, nor the order in which tests were registered, nor the responder make a difference.
-/
theorem runs_agree {fixtures : Fixtures} (built : r.registry.Built) (built' : r'.registry.Built)
    (same : ∀ d, d ∈ r.registry.definitions ↔ d ∈ r'.registry.definitions)
    (always : DependencyGraph.MakesAlways σ r.registry r.setup fixtures)
    (always' : DependencyGraph.MakesAlways τ r'.registry r'.setup fixtures)
    (reads : r.registry.ReadsOwn fixtures) (own : r.registry.WritesOwn fixtures)
    (completed : (r.run options startedAt debug).result = .ok outcome)
    (completed' : (r'.run options' startedAt' debug').result = .ok outcome') :
    (∀ record ∈ outcome.tests, ∀ record' ∈ outcome'.tests, record.name = record'.name →
        record.state = record'.state ∧ record.skipReason = record'.skipReason ∧
          record.warnings = record'.warnings) ∧
      ∀ d ∈ r.registry.definitions, d.name ∈ outcome.order → d.name ∈ outcome'.order →
        ∀ property ∈ d.provides, outcome.properties.get? property = outcome'.properties.get? property := by
  obtain ⟨fetcher, g, represents, rfl⟩ := run_represents built always completed
  obtain ⟨fetcher', g', represents', rfl⟩ := run_represents built' always' completed'
  have registered := registered_of_candidate r options
  have registered' := registered_of_candidate r' options'
  have scheduled := represents.scheduled
  have scheduled' := represents'.scheduled
  generalize (Order.ofEdges g.edges).nodes.filterMap g.node? = nodes at scheduled
  generalize (Order.ofEdges g'.edges).nodes.filterMap g'.node? = nodes' at scheduled'
  have agree : ∀ t ∈ r.turns options fetcher debug nodes, ∀ t' ∈ r'.turns options' fetcher' debug' nodes',
      t.node.name = t'.node.name → t.Agrees t' ∧ ∀ property ∈ t.node.definition.provides,
        (Turn.final (r.turns options fetcher debug nodes) (r.start options)).store.get? property =
          (Turn.final (r'.turns options' fetcher' debug' nodes') (r'.start options')).store.get? property := by
    intro t member t' member' named
    obtain ⟨d, reached, atD⟩ := (scheduled.mem_iff _).mp (Turn.node_mem member)
    obtain ⟨d', reached', atD'⟩ := (scheduled'.mem_iff _).mp (Turn.node_mem member')
    have known := reached.registered built registered
    have known' := (same d').mpr (reached'.registered built' registered')
    rw [atD, atD'] at named
    have sameTest : d = d' := built.eq_of_name known known' named
    subst sameTest
    have fresh (property : String) :
        (r.start options).store.get? property = (r'.start options').store.get? property := rfl
    rw [atD]
    exact Turn.turns_agree built built' same reads own registered registered' scheduled scheduled'
      fresh (scheduled.settles d reached) member member' atD atD'
  constructor
  · intro record held record' held' named
    obtain ⟨t, member, rfl⟩ := List.mem_map.mp held
    obtain ⟨t', member', rfl⟩ := List.mem_map.mp held'
    obtain ⟨turns, -⟩ := agree t member t' member' named
    exact ⟨turns.state, turns.skipReason, turns.warnings⟩
  · intro d known taken taken' property provides
    rw [order_outcome, List.map_map] at taken taken'
    obtain ⟨t, member, named⟩ := List.mem_map.mp taken
    obtain ⟨t', member', named'⟩ := List.mem_map.mp taken'
    have atD : t.node.definition = d :=
      built.eq_of_name (scheduled.registered built registered (Turn.node_mem member)).1 known named
    exact (agree t member t' member' (named.trans named'.symm)).2 property (atD ▸ provides)

/-- The two tests registered in either order, one run with a selection and one without. -/
theorem runs_agree_of_either_order :
    let r : Runner Script :=
      { new .default .standard (.ofReplies []) with
        registry := (Registry.empty.registerAll [afterReset, resetTest] 0).registry }
    let r' : Runner Script :=
      { new { Settings.default with universeId := 7 } .standard
          (.ofReplies [⟨.ok (.ackTimer .queuedMessage .zero), .zero⟩]) with
        registry := (Registry.empty.registerAll [resetTest, afterReset] 0).registry }
    let fixtures : Fixtures := fun d => (d.make r.setup (.open r.toEquipment)).1
    r.registry.Built ∧ r'.registry.Built ∧ (∀ d, d ∈ r.registry.definitions ↔ d ∈ r'.registry.definitions) ∧
      DependencyGraph.MakesAlways Script r.registry r.setup fixtures ∧
      DependencyGraph.MakesAlways Script r'.registry r'.setup fixtures ∧
      r.registry.ReadsOwn fixtures ∧ r.registry.WritesOwn fixtures ∧ ∃ outcome outcome',
        (r.run ⟨none, false⟩ default false).result = .ok outcome ∧
        (r'.run ⟨some (.ofList ["AfterReset"]), true⟩ default true).result = .ok outcome' ∧
        ∀ record ∈ outcome.tests, ∀ record' ∈ outcome'.tests, record.name = record'.name →
          record.state = record'.state := by
  intro r r' fixtures
  have built : r.registry.Built := .registerAll .empty _ _
  have built' : r'.registry.Built := .registerAll .empty _ _
  have definitions : r.registry.definitions = [afterReset, resetTest] := rfl
  have definitions' : r'.registry.definitions = [resetTest, afterReset] := rfl
  have either : ∀ d ∈ r.registry.definitions, d = resetTest ∨ d = afterReset :=
    fun d member => (List.mem_pair.mp (definitions ▸ member)).symm
  have either' : ∀ d ∈ r'.registry.definitions, d = resetTest ∨ d = afterReset :=
    fun d member => List.mem_pair.mp (definitions' ▸ member)
  have known : resetTest ∈ r.registry.definitions := List.mem_cons_of_mem _ List.mem_cons_self
  have known' : resetTest ∈ r'.registry.definitions := List.mem_cons_self
  have same (d : TestDefinition) : d ∈ r.registry.definitions ↔ d ∈ r'.registry.definitions := by
    rw [definitions, definitions', List.mem_pair, List.mem_pair, or_comm]
  have always : DependencyGraph.MakesAlways Script r.registry r.setup fixtures := by
    intro d member w
    rcases either d member with rfl | rfl <;> rfl
  have always' : DependencyGraph.MakesAlways Script r'.registry r'.setup fixtures := by
    intro d member w
    rcases either' d member with rfl | rfl <;> rfl
  have reads : r.registry.ReadsOwn fixtures := by
    intro d member
    rcases either d member with rfl | rfl
    · trivial
    · exact ⟨.inl (.inl List.mem_cons_self), fun _ => trivial⟩
  have own : r.registry.WritesOwn fixtures := by
    intro d member
    rcases either d member with rfl | rfl
    · exact ⟨List.mem_cons_self, trivial⟩
    · exact fun _ => trivial
  obtain ⟨outcome, completed⟩ : ∃ outcome, (r.run ⟨none, false⟩ default false).result = .ok outcome :=
    exists_outcome_of_pair built rfl known either List.mem_cons_self nofun nofun fun _ => rfl
  obtain ⟨outcome', completed'⟩ :
      ∃ outcome, (r'.run ⟨some (.ofList ["AfterReset"]), true⟩ default true).result = .ok outcome :=
    exists_outcome_of_pair built' rfl known' either' List.mem_cons_self nofun nofun fun _ => rfl
  refine ⟨built, built', same, always, always', reads, own, outcome, outcome', completed, completed', ?_⟩
  intro record held record' held' named
  exact ((runs_agree built built' same always always' reads own completed completed').1 record held record' held'
    named).1

end Runner

end Conformance
