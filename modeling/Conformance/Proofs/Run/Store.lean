import Conformance.Proofs.Run.Leg
import Conformance.Proofs.Suite.Schedule

/-!
# The store in the course of a run

If each test writes its own properties only, then no leg but that of its provider touches a property.
So a test finds what its dependencies provide as it will be at the end (`Course.get?_of_dependsOn`), and
its own properties as they were at the start (`Course.get?_of_provides`).
-/

namespace Conformance

theorem Store.firstMissing?_eq_some_iff {s : Store} {names : SortedSet String} {property : String} :
    s.firstMissing? names.toList = some property ↔
      property ∈ names ∧ s.contains property = false ∧
        ∀ other ∈ names, other < property → s.contains other = true := by
  rw [firstMissing?, SortedSet.find?_eq_some_iff]
  simp only [Bool.not_eq_true', Bool.not_eq_false']
  exact and_congr_right fun _ => and_congr_right fun _ => forall_congr' fun _ => forall_comm

theorem Store.firstMissing?_eq_none_iff {s : Store} {names : SortedSet String} :
    s.firstMissing? names.toList = none ↔ ∀ property ∈ names, s.contains property = true := by
  simp [firstMissing?, SortedSet.mem_def]

namespace Registry

/-- Each test writes none but the properties that it provides. -/
def WritesOwn (r : Registry) (fixtures : Fixtures) : Prop :=
  ∀ d ∈ r.definitions, (fixtures d).body.WritesOnly (· ∈ d.provides)

/-- The course of each test depends on the properties that it requires or provides, and on nothing else. -/
def ReadsOwn (r : Registry) (fixtures : Fixtures) : Prop :=
  ∀ d ∈ r.definitions,
    (fixtures d).body.ReadsOnly fun property => Requires fixtures d property ∨ property ∈ d.provides

end Registry

namespace Leg

variable {σ : Type}

/-- The leg writes none but the properties that its test provides. -/
def WritesOwn [Transport σ] (leg : Leg σ) : Prop :=
  ∀ property ∈ leg.written, property ∈ leg.turn.node.definition.provides

variable [Transport σ] {p : RunPlan} {w w' : World σ} {legs early late : List (Leg σ)} {leg : Leg σ}
  {r : Registry} {fixtures : Fixtures} {roots : List TestDefinition} {u : TestDefinition} {property : String}

theorem Taken.of_mem_written (taken : leg.Taken p) {allowed : String → Prop}
    (writes : leg.turn.node.fixture.body.WritesOnly allowed) (written : property ∈ leg.written) :
    allowed property := by
  rcases taken.passedOver_or_carriedOut with ⟨skipped, -⟩ | carried
  · rw [written_of_skipped skipped] at written
    cases written
  · rw [written_of_ran carried.ran] at written
    exact writes.of_mem_written written

/-- Nothing keeps a test from running that requires nothing and has a body alone for its fixture. -/
theorem Taken.carriedOut_of_free {d : TestDefinition} {body : Body} (taken : leg.Taken p)
    (atD : leg.turn.node = .ofDefinition fixtures d) (plain : fixtures d = .ofBody body)
    (free : ∀ property, property ∉ d.requires) : leg.CarriedOut := by
  refine taken.carriedOut ?_ (Store.firstMissing?_eq_none_iff.mpr fun property required => ?_)
  · intro broken
    rw [atD, TestNode.ofDefinition, plain] at broken
    cases broken
  · rcases (Registry.mem_requires_iff atD).mp required with listed | asked
    · exact absurd listed (free property)
    · rw [plain] at asked
      cases asked

/-- The legs of a run lead from the one world to the other, and their tests are scheduled. -/
structure Course (r : Registry) (fixtures : Fixtures) (roots : List TestDefinition) (p : RunPlan) (w : World σ)
    (legs : List (Leg σ)) (w' : World σ) : Prop where
  chain : Chain p w legs w'
  scheduled : r.Scheduled fixtures roots (legs.map fun leg => leg.turn.node)

namespace Course

theorem taken (course : Course r fixtures roots p w legs w') (member : leg ∈ legs) : leg.Taken p := by
  obtain ⟨early, late, rfl⟩ := List.append_of_mem member
  exact course.chain.split.2.1

theorem apart (course : Course r fixtures roots p w (early ++ leg :: late) w') :
    (∀ before ∈ early, before.turn.node.name ≠ leg.turn.node.name) ∧
      (∀ after ∈ late, after.turn.node.name ≠ leg.turn.node.name) ∧
      ∀ before ∈ early, ∀ after ∈ late, after.turn.node.name ≠ before.turn.node.name := by
  have apart := course.scheduled.names_nodup
  rw [List.map_map, List.map_append, List.map_cons, List.nodup_append, List.nodup_cons] at apart
  obtain ⟨-, ⟨once, -⟩, crossed⟩ := apart
  refine ⟨fun before earlier => ?_, fun after later same => once ?_, fun before earlier after later => ?_⟩
  · exact crossed _ (List.mem_map_of_mem earlier) _ List.mem_cons_self
  · exact List.mem_map.mpr ⟨after, later, same⟩
  · exact (crossed _ (List.mem_map_of_mem earlier) _ (List.mem_cons_of_mem _ (List.mem_map_of_mem later))).symm

theorem exists_provider (course : Course r fixtures roots p w (early ++ leg :: late) w')
    (depends : r.DependsOn fixtures leg.turn.node.definition u) :
    ∃ before ∈ early, before.turn.node = .ofDefinition fixtures u := by
  have split : ((early ++ leg :: late).map fun leg => leg.turn.node) =
      (early.map fun leg => leg.turn.node) ++ leg.turn.node :: late.map fun leg => leg.turn.node := by
    rw [List.map_append, List.map_cons]
  exact List.mem_map.mp (course.scheduled.before split depends)

section Registered

variable (course : Course r fixtures roots p w legs w') (built : r.Built) (registered : ∀ d ∈ roots, d ∈ r.definitions)

include course built registered

theorem node (member : leg ∈ legs) :
    leg.turn.node.definition ∈ r.definitions ∧ leg.turn.node = .ofDefinition fixtures leg.turn.node.definition :=
  course.scheduled.registered built registered (List.mem_map_of_mem member)

theorem writesOwn (own : r.WritesOwn fixtures) : ∀ leg ∈ legs, leg.WritesOwn := by
  intro leg member property written
  obtain ⟨known, same⟩ := course.node built registered member
  have writes : leg.turn.node.fixture.body.WritesOnly (· ∈ leg.turn.node.definition.provides) := by
    rw [same]
    exact own _ known
  exact (course.taken member).of_mem_written writes written

variable (own : ∀ leg ∈ legs, leg.WritesOwn)

include own

theorem unwritten (known : u ∈ r.definitions) (provides : property ∈ u.provides) (member : leg ∈ legs)
    (unlike : leg.turn.node.name ≠ u.name) : property ∉ leg.written := by
  intro written
  have mine := own leg member property written
  have knownToo := (course.node built registered member).1
  exact unlike (congrArg TestDefinition.name (built.eq_of_provides knownToo known mine provides))

/-- A test finds the properties of what it depends on as they will be at the end of the run. -/
theorem get?_of_dependsOn (member : leg ∈ legs) (depends : r.DependsOn fixtures leg.turn.node.definition u)
    (provides : property ∈ u.provides) :
    leg.start.store.get? property = w'.store.get? property := by
  obtain ⟨early, late, rfl⟩ := List.append_of_mem member
  obtain ⟨before, earlier, atU⟩ := course.exists_provider depends
  have named : before.turn.node.name = u.name := congrArg TestNode.name atU
  obtain ⟨-, taken, go⟩ := course.chain.split
  obtain ⟨first, -, crossed⟩ := course.apart
  -- The provider has had its turn, so neither this leg nor a later one is its own.
  have here : property ∉ leg.written := by
    refine course.unwritten built registered own (depends.registered built) provides member ?_
    exact named ▸ (first before earlier).symm
  have afterwards : ∀ after ∈ late, property ∉ after.written := by
    intro after later
    refine course.unwritten built registered own (depends.registered built) provides
      (List.mem_append_right _ (List.mem_cons_of_mem _ later)) ?_
    exact named ▸ crossed before earlier after later
  rw [go.get? afterwards, taken.get? here]

theorem get?_of_requires (member : leg ∈ legs)
    (required : Registry.Requires fixtures leg.turn.node.definition property) :
    leg.start.store.get? property = w'.store.get? property := by
  obtain ⟨d, reached, atD⟩ := (course.scheduled.mem_iff _).mp (List.mem_map_of_mem member)
  have settles : r.Settles fixtures leg.turn.node.definition := by
    rw [atD]
    exact course.scheduled.settles d reached
  obtain ⟨u, provided⟩ := settles.resolves.providers property required
  have provides := (built.providerOf?_eq_some_iff.mp provided).2
  exact course.get?_of_dependsOn built registered own member (.provider required provided) provides

/-- A test finds its own properties as they were at the start, and as it leaves them they stay. -/
theorem get?_of_provides (member : leg ∈ legs) (provides : property ∈ leg.turn.node.definition.provides) :
    leg.start.store.get? property = w.store.get? property ∧
      leg.turn.world.store.get? property = w'.store.get? property := by
  have known := (course.node built registered member).1
  obtain ⟨early, late, rfl⟩ := List.append_of_mem member
  obtain ⟨come, -, go⟩ := course.chain.split
  obtain ⟨first, last, -⟩ := course.apart
  constructor
  · refine come.get? fun before earlier => ?_
    exact course.unwritten built registered own known provides (List.mem_append_left _ earlier) (first before earlier)
  · refine (go.get? fun after later => ?_).symm
    exact course.unwritten built registered own known provides
      (List.mem_append_right _ (List.mem_cons_of_mem _ later)) (last after later)

end Registered

end Course

end Leg

namespace Turn

variable {σ : Type} [Transport σ] {r : Registry} {fixtures : Fixtures} {roots : List TestDefinition}
  {nodes : List TestNode} {p : RunPlan} {completed : Nat} {w : World σ} {t : Turn σ}

theorem map_node_legs (p : RunPlan) (nodes : List TestNode) (completed : Nat) (w : World σ) :
    ((Leg.ofTurns w (takeAll p nodes completed w)).map fun leg => leg.turn.node) = nodes := by
  calc (Leg.ofTurns w (takeAll p nodes completed w)).map (fun leg => leg.turn.node)
    _ = ((Leg.ofTurns w (takeAll p nodes completed w)).map Leg.turn).map node := by rw [List.map_map]; rfl
    _ = nodes := by rw [Leg.map_turn_ofTurns, map_node_takeAll]

theorem course (scheduled : r.Scheduled fixtures roots nodes) (p : RunPlan) (completed : Nat) (w : World σ) :
    Leg.Course r fixtures roots p w (Leg.ofTurns w (takeAll p nodes completed w))
      (final (takeAll p nodes completed w) w) :=
  ⟨.takeAll p nodes completed w, by rwa [map_node_legs]⟩

/-- What a turn finds in the store, and what of it lasts to the end of the run. -/
theorem exists_turn (built : r.Built) (own : r.WritesOwn fixtures) (registered : ∀ d ∈ roots, d ∈ r.definitions)
    (scheduled : r.Scheduled fixtures roots nodes) (member : t ∈ takeAll p nodes completed w) :
    ∃ last completed' w', t = take p t.node last completed' w' ∧
      (∀ u, r.DependsOn fixtures t.node.definition u → ∀ property ∈ u.provides,
        w'.store.get? property = (final (takeAll p nodes completed w) w).store.get? property) ∧
      ∀ property ∈ t.node.definition.provides, w'.store.get? property = w.store.get? property ∧
        t.world.store.get? property = (final (takeAll p nodes completed w) w).store.get? property := by
  have course := course scheduled p completed w
  have own := course.writesOwn built registered own
  obtain ⟨leg, present, rfl⟩ : ∃ leg ∈ Leg.ofTurns w (takeAll p nodes completed w), leg.turn = t := by
    rw [← Leg.map_turn_ofTurns w (takeAll p nodes completed w)] at member
    exact List.mem_map.mp member
  obtain ⟨n, last, completed', taken⟩ := course.taken present
  have same : leg.turn.node = n := by rw [taken, node_take]
  refine ⟨last, completed', leg.start, same ▸ taken, fun u depends property provides => ?_,
    fun property provides => ?_⟩
  · exact course.get?_of_dependsOn built registered own present depends provides
  · exact course.get?_of_provides built registered own present provides

end Turn

end Conformance
