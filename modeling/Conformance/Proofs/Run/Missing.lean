import Conformance.Proofs.Run.Course

/-!
# Tests that miss a property

Whether a test is passed over for a missing property is decided when its turn comes. If each test writes its
own properties only, the end of the run tells the same: what the test requires has been provided by then, or
never is (`missing_at_end`).
-/

namespace Conformance

namespace Leg.Course

variable {σ : Type} [Transport σ] {r : Registry} {fixtures : Fixtures} {roots : List TestDefinition} {p : RunPlan}
  {w w' : World σ} {legs : List (Leg σ)} {leg : Leg σ} {d : TestDefinition} {property : String}

variable (course : Course r fixtures roots p w legs w') (built : r.Built) (registered : ∀ d ∈ roots, d ∈ r.definitions)
  (own : ∀ leg ∈ legs, leg.WritesOwn)

include course built registered own

/-- What a test finds missing in its turn is what is missing at the end. -/
theorem firstMissing?_eq (member : leg ∈ legs) :
    leg.start.store.firstMissing? leg.turn.node.requires.toList =
      w'.store.firstMissing? leg.turn.node.requires.toList := by
  obtain ⟨-, atLeg⟩ := course.node built registered member
  refine Store.firstMissing?_congr fun property required => ?_
  have needed := (Registry.mem_requires_iff atLeg).mp (SortedSet.mem_def.mpr required)
  exact course.get?_of_requires built registered own member needed

theorem skipReason_eq_missing_iff (member : leg ∈ legs) (atD : leg.turn.node = .ofDefinition fixtures d)
    (sound : (fixtures d).state ≠ .broken) :
    leg.turn.record.skipReason = some s!"property {property} not found" ↔
      w'.store.firstMissing? leg.turn.node.requires.toList = some property := by
  have ready : leg.turn.node.fixture.state ≠ .broken := by
    rw [atD]
    exact sound
  rw [← course.firstMissing?_eq built registered own member,
    ← (course.taken member).verdict_eq_missing_iff ready]
  exact Verdict.skipReason_eq_missing_iff

end Leg.Course

namespace Runner

variable {σ : Type} [Transport σ] {r : Runner σ} {options : RunOptions} {startedAt : Timestamp} {debug : Bool}
  {outcome : RunOutcome}

/--
A test that is not broken is passed over for a missing property if and only if one that it requires is not
set at the end of the run. The reason names the least of these, and no test of the run writes it.
-/
theorem missing_at_end (built : r.registry.Built) (own : ∀ leg ∈ r.course options debug, leg.WritesOwn)
    (completed : (r.run options startedAt debug).result = .ok outcome) :
    ∀ record ∈ outcome.tests, ∀ d ∈ r.registry.definitions, d.name = record.name →
      (r.fixtures options d).state ≠ .broken →
      ((∃ property : String, record.skipReason = some s!"property {property} not found") ↔
        ∃ property, Registry.Requires (r.fixtures options) d property ∧ outcome.properties.contains property = false) ∧
      (∀ property : String, record.skipReason = some s!"property {property} not found" ↔
        Registry.Requires (r.fixtures options) d property ∧ outcome.properties.contains property = false ∧
          ∀ other < property, Registry.Requires (r.fixtures options) d other →
            outcome.properties.contains other = true) ∧
      ∀ property : String, record.skipReason = some s!"property {property} not found" →
        ∀ leg ∈ r.course options debug, property ∉ leg.written := by
  intro record held d known named sound
  obtain ⟨p, last, course, -, properties⟩ := exists_course built completed
  obtain ⟨leg, member, rfl, atD⟩ := exists_leg built completed held known named
  have skipped (property : String) : leg.turn.record.skipReason = some s!"property {property} not found" ↔
      last.store.firstMissing? leg.turn.node.requires.toList = some property :=
    course.skipReason_eq_missing_iff built (registered_of_candidate r options) own member atD sound
  have atEnd (property : String) : last.store.contains property = outcome.properties.contains property := by
    rw [properties]
    rfl
  refine ⟨?_, fun property => ?_, fun property reason other present written => ?_⟩
  · -- Something is missing unless everything is there.
    simp only [skipped, ← Option.isSome_iff_exists, Option.isSome_iff_ne_none]
    rw [Ne, Store.firstMissing?_eq_none_iff]
    simp only [Registry.mem_requires_iff atD, atEnd, not_forall, Bool.not_eq_true, exists_prop]
  · rw [skipped, Store.firstMissing?_eq_some_iff]
    simp only [Registry.mem_requires_iff atD, atEnd]
    exact and_congr_right fun _ => and_congr_right fun _ => forall_congr' fun _ => forall_comm
  · obtain ⟨-, absent, -⟩ := Store.firstMissing?_eq_some_iff.mp ((skipped property).mp reason)
    have set := (properties_contains_iff built completed).mpr ⟨other, present, written⟩
    rw [← atEnd, absent] at set
    cases set

/-- Declares the property, and never sets it. -/
def silentReset : TestDefinition := { resetTest with factory := fun _ => .ofBody (.done .passed) }

/-- The test that requires the property is passed over. -/
theorem missing_at_end_of_silentReset :
    let r : Runner Script :=
      { new .default .standard (.ofReplies []) with
        registry := (Registry.empty.registerAll [afterReset, silentReset] 0).registry }
    r.registry.Built ∧ (∀ leg ∈ r.course ⟨none, false⟩ false, leg.WritesOwn) ∧ ∃ outcome,
      (r.run ⟨none, false⟩ default false).result = .ok outcome ∧
      ∃ record ∈ outcome.tests, record.name = "AfterReset" ∧
        record.skipReason = some "property reset not found" := by
  intro r
  have built : r.registry.Built := .registerAll .empty _ _
  have definitions : r.registry.definitions = [afterReset, silentReset] := rfl
  have either : ∀ d ∈ r.registry.definitions, d = silentReset ∨ d = afterReset :=
    fun d member => (List.mem_pair.mp (definitions ▸ member)).symm
  have known : silentReset ∈ r.registry.definitions := List.mem_cons_of_mem _ List.mem_cons_self
  have waits : afterReset ∈ r.registry.definitions := List.mem_cons_self
  obtain ⟨outcome, completed⟩ : ∃ outcome, (r.run ⟨none, false⟩ default false).result = .ok outcome :=
    exists_outcome_of_pair built rfl known either List.mem_cons_self nofun nofun fun _ => rfl
  obtain ⟨p, last, course, -, -⟩ := exists_course built completed
  have registered := registered_of_candidate r ⟨none, false⟩
  -- Neither body writes anything.
  have unwritten : ∀ leg ∈ r.course ⟨none, false⟩ false, ∀ property, property ∉ leg.written := by
    intro leg member property written
    obtain ⟨here, -⟩ := course.node built registered member
    obtain ⟨w, made⟩ := exists_make built completed member
    have nothing : leg.turn.node.fixture.body.WritesOnly fun _ => False := by
      rw [made]
      rcases either _ here with same | same
      · rw [same]
        trivial
      · rw [same]
        exact fun _ => trivial
    exact (course.taken member).of_mem_written nothing written
  have own : ∀ leg ∈ r.course ⟨none, false⟩ false, leg.WritesOwn :=
    fun leg member property written => absurd written (unwritten leg member property)
  have absent : outcome.properties.contains "reset" = false := by
    rw [← Bool.not_eq_true, properties_contains_iff built completed]
    rintro ⟨leg, member, written⟩
    exact unwritten leg member _ written
  have asked : r.Asked ⟨none, false⟩ afterReset := .of_registered waits
  obtain ⟨leg, member, atD⟩ := exists_leg_of_asked built completed asked
  have fixture : r.fixtures ⟨none, false⟩ afterReset = .ofBody _ := fixtures_eq built completed member atD fun _ => rfl
  obtain ⟨record, held, named⟩ := exists_record built completed asked
  have sound : (r.fixtures ⟨none, false⟩ afterReset).state ≠ .broken := by
    rw [fixture]
    nofun
  have skipped := (missing_at_end built own completed record held afterReset waits named.symm sound).2.1 "reset"
  refine ⟨built, own, outcome, completed, record, held, named, skipped.mpr ⟨?_, absent, ?_⟩⟩
  · exact .inl List.mem_cons_self
  · rintro other less (required | asked)
    · rw [List.mem_singleton.mp required] at less
      exact absurd less Std.lt_irrefl
    · rw [fixture] at asked
      cases asked

end Runner

end Conformance
