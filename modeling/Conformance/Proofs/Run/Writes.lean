import Conformance.Proofs.Drain.Effects
import Conformance.Proofs.Run.Course
import Conformance.Proofs.Run.Factories

/-!
# Properties are written once

The store takes every write and logs those that it does not expect: the second of a property, and one of a
property that nobody declared. If each test writes its own properties only, what a test reads is what the
properties are at the end, and nothing is written but by its provider (`written_once`); and if no test
writes a property twice either, the store has nothing to log (`Leg.Course.quiet`).
-/

namespace Conformance

/-! ### What the store logs -/

/-- The store logs the event, because it did not expect a write. -/
def Event.ofStore : Event → Bool
  | .propertySetAgain _ => true
  | .propertyUndeclared _ => true
  | _ => false

/-- There is nothing from the store in the log. -/
def Quiet (events : List Event) : Prop := ∀ event ∈ events, event.ofStore = false

namespace Quiet

variable {events events' : List Event}

theorem append_iff : Quiet (events ++ events') ↔ Quiet events ∧ Quiet events' := List.forall_mem_append

theorem cons_iff {event : Event} : Quiet (event :: events) ↔ event.ofStore = false ∧ Quiet events :=
  List.forall_mem_cons

theorem nil : Quiet [] := nofun

theorem map {α : Type} {f : α → Event} (quiet : ∀ x, (f x).ofStore = false) (items : List α) :
    Quiet (items.map f) := List.forall_mem_map.mpr fun x _ => quiet x

theorem flatMap {α : Type} {f : α → List Event} {items : List α} (quiet : ∀ x ∈ items, Quiet (f x)) :
    Quiet (items.flatMap f) := List.forall_mem_flatMap.mpr quiet

end Quiet

theorem Store.writeEvents_eq_nil {s : Store} {name : String} (unset : s.contains name = false)
    (declared : name ∈ s.declared) : s.writeEvents name = [] := by
  simp [writeEvents, unset, declared]

namespace Body

variable {σ : Type} [Transport σ] {body : Body}

theorem declared_run (b : Bench σ) : (body.run b).2.store.declared = b.store.declared := by
  induction body generalizing b with
  | done => rfl
  | get _ _ ih | clock _ ih | read _ _ ih | samples _ _ ih | lookUp _ _ ih => exact ih _ _
  | write _ _ _ ih | keep _ _ _ ih | sleep _ _ ih | record _ _ _ ih | warn _ _ ih | note _ _ ih | remark _ _ ih =>
    exact ih _

/-- A body that writes each of its properties once, and none that is set or that nobody declared. -/
theorem quiet_run (b : Bench σ) (once : (body.written b).Nodup)
    (fresh : ∀ property ∈ body.written b, b.store.contains property = false ∧ property ∈ b.store.declared)
    (quiet : Quiet b.events.toList) : Quiet (body.run b).2.events.toList := by
  induction body generalizing b with
  | done => exact quiet
  | write property value next ih =>
    rw [written] at once fresh
    obtain ⟨apart, later⟩ := List.nodup_cons.mp once
    obtain ⟨unset, declared⟩ := fresh property List.mem_cons_self
    -- What is still to be written is other than this, so it is as fresh as before.
    refine ih _ later (fun other member => ?_) ?_
    · obtain ⟨unsetToo, declaredToo⟩ := fresh other (List.mem_cons_of_mem _ member)
      refine ⟨?_, declaredToo⟩
      rw [Store.contains_eq, Store.get?_set, if_neg, ← Store.contains_eq, unsetToo]
      rintro rfl
      exact apart member
    · rw [Store.writeEvents_eq_nil unset declared]
      simpa using quiet
  | get request next ih =>
    refine ih _ _ once fresh ?_
    rw [Array.toList_appendList, Quiet.append_iff]
    exact ⟨quiet, .map (fun _ => rfl) _⟩
  | remark line next ih =>
    refine ih _ once fresh ?_
    rw [Array.toList_push, Quiet.append_iff, Quiet.cons_iff]
    exact ⟨quiet, rfl, .nil⟩
  | clock _ ih | read _ _ ih | samples _ _ ih | lookUp _ _ ih => exact ih _ _ once fresh quiet
  | keep _ _ _ ih | sleep _ _ ih | record _ _ _ ih | warn _ _ ih | note _ _ ih => exact ih _ once fresh quiet

end Body

theorem GetResult.complaints_quiet (result : GetResult) : Quiet result.complaints := by
  unfold complaints
  split
  · exact Quiet.cons_iff.mpr ⟨rfl, .nil⟩
  · split
    · exact Quiet.cons_iff.mpr ⟨rfl, .nil⟩
    · split
      · exact Quiet.cons_iff.mpr ⟨rfl, .nil⟩
      · exact .nil

theorem Scan.eventsAt_quiet (s : Scan) (i : Nat) : Quiet (s.eventsAt i) := by
  rw [eventsAt, Quiet.append_iff]
  refine ⟨.map (fun _ => rfl) _, ?_⟩
  split
  · exact Quiet.cons_iff.mpr ⟨rfl, .nil⟩
  · exact .nil

theorem Scan.closing_quiet (s : Scan) (k : Nat) : Quiet (s.closing k) := by
  rw [closing, Quiet.append_iff]
  refine ⟨.map (fun _ => rfl) _, ?_⟩
  split
  · exact GetResult.complaints_quiet _
  · exact Quiet.cons_iff.mpr ⟨rfl, .nil⟩
  · exact Quiet.cons_iff.mpr ⟨rfl, .nil⟩

theorem Fetcher.drainAll_quiet {σ : Type} [Transport σ] (fetcher : Fetcher) (t : σ) :
    Quiet (fetcher.drainAll t).events.toList := by
  rcases fetcher.limit_cases with nothing | allowed
  · rw [drainAll_of_limit_zero t nothing]
    exact Quiet.cons_iff.mpr ⟨rfl, Quiet.cons_iff.mpr ⟨rfl, .nil⟩⟩
  · obtain ⟨k, reason, -, -, scanned⟩ := exists_run fetcher t allowed
    rw [scanned]
    simp only [Scan.run, List.toList_toArray, Quiet.append_iff, Quiet.cons_iff]
    exact ⟨⟨.flatMap fun i _ => Scan.eventsAt_quiet _ i, Scan.closing_quiet _ k⟩, rfl, .nil⟩

theorem Turn.opening_quiet {σ : Type} {p : RunPlan} {n : TestNode} {drain : DrainRun σ}
    (quiet : Quiet drain.events.toList) : Quiet (opening p n drain) := by
  unfold opening
  split
  · simp only [Quiet.append_iff, Quiet.cons_iff]
    exact ⟨⟨quiet, rfl, .nil⟩, .nil⟩
  · simp only [Quiet.append_iff, Quiet.cons_iff]
    exact ⟨⟨quiet, rfl, .nil⟩, rfl, .nil⟩

theorem Runner.construct_quiet {σ : Type} [Transport σ] (r : Runner σ) (options : RunOptions) :
    Quiet (r.construct options).events := by
  obtain ⟨remarks, logged⟩ := r.exists_remarks options
  rw [logged, Quiet.append_iff]
  refine ⟨.map (fun _ => rfl) _, ?_⟩
  unfold DependencyGraph.report
  split
  · exact .nil
  · exact Quiet.cons_iff.mpr ⟨rfl, .nil⟩

/-! ### One leg -/

namespace Leg

variable {σ : Type} [Transport σ] {p : RunPlan} {w w' : World σ} {legs early late : List (Leg σ)} {leg : Leg σ}
  {property : String}

theorem ran_of_mem_written (member : property ∈ leg.written) : leg.turn.verdict.skipReason = none := by
  by_contra skipped
  rw [written_of_skipped skipped] at member
  cases member

namespace Taken

theorem declared (taken : leg.Taken p) : leg.turn.world.store.declared = leg.start.store.declared := by
  rcases taken.passedOver_or_carriedOut with ⟨-, world⟩ | carried
  · rw [world]
    rfl
  · obtain ⟨pause, world⟩ := carried.world_eq
    rw [world]
    exact Body.declared_run leg.bench

/-- A body is not carried out unless the test has all that it requires. -/
theorem contains_of_ran (taken : leg.Taken p) (ran : leg.turn.verdict.skipReason = none)
    (required : property ∈ leg.turn.node.requires) : leg.start.store.contains property = true := by
  have sound : leg.turn.node.fixture.state ≠ .broken := by
    intro broken
    rw [(taken.passedOver_broken broken).verdict_eq] at ran
    cases ran
  refine Store.firstMissing?_eq_none_iff.mp ?_ property required
  cases missing : leg.start.store.firstMissing? leg.turn.node.requires.toList with
  | none => rfl
  | some other =>
    rw [(taken.passedOver_missing sound missing).verdict_eq] at ran
    cases ran

theorem quiet (taken : leg.Taken p) (once : leg.written.Nodup)
    (fresh : ∀ property ∈ leg.written,
      leg.start.store.contains property = false ∧ property ∈ leg.start.store.declared) :
    Quiet leg.turn.events := by
  have drain : Quiet leg.turn.drain.events.toList := by
    rw [taken.drain_eq]
    exact Fetcher.drainAll_quiet _ _
  have logged : Quiet leg.logged := by
    unfold Leg.logged
    split
    · next ran =>
      rw [written_of_ran ran] at once fresh
      exact Body.quiet_run leg.bench once fresh .nil
    · exact .nil
  have closing : (leg.turn.verdict.closing p leg.turn.node.name).ofStore = false := by
    cases leg.turn.verdict <;> rfl
  rw [taken.events_eq, Quiet.append_iff, Quiet.append_iff, Quiet.cons_iff]
  exact ⟨⟨Turn.opening_quiet drain, logged⟩, closing, .nil⟩

end Taken

theorem Chain.declared (chain : Chain p w legs w') : ∀ leg ∈ legs, leg.start.store.declared = w.store.declared := by
  induction chain with
  | nil =>
    intro _ member
    cases member
  | cons taken _ ih =>
    intro leg member
    rcases List.mem_cons.mp member with rfl | later
    · rfl
    · rw [ih leg later, taken.declared]

/-! ### The legs of a run -/

namespace Course

variable {r : Registry} {fixtures : Fixtures} {roots : List TestDefinition} {provider : Leg σ}

/-- What a test depends on has its turn before it. -/
theorem mem_late (course : Course r fixtures roots p w (early ++ provider :: late) w')
    (member : leg ∈ early ++ provider :: late)
    (depends : r.DependsOn fixtures leg.turn.node.definition provider.turn.node.definition) : leg ∈ late := by
  have named {before : Leg σ} (at_ : before.turn.node = .ofDefinition fixtures provider.turn.node.definition) :
      before.turn.node.name = provider.turn.node.name := by
    rw [at_]
    rfl
  rcases List.mem_append.mp member with earlier | here
  · -- The provider would be both before this leg and after it.
    obtain ⟨first, rest, rfl⟩ := List.append_of_mem earlier
    rw [List.append_assoc, List.cons_append] at course
    obtain ⟨before, atFirst, node⟩ := course.exists_provider depends
    obtain ⟨-, -, crossed⟩ := course.apart
    exact absurd (named node).symm
      (crossed before atFirst provider (List.mem_append_right _ List.mem_cons_self))
  · rcases List.mem_cons.mp here with rfl | later
    · obtain ⟨before, atFirst, node⟩ := course.exists_provider depends
      exact absurd (named node) (course.apart.1 before atFirst)
    · exact later

variable (course : Course r fixtures roots p w legs w') (built : r.Built) (registered : ∀ d ∈ roots, d ∈ r.definitions)
  (own : ∀ leg ∈ legs, leg.WritesOwn)

include course built registered own

/-- Only its provider writes a property, and all that require it come later. -/
theorem exists_writer (member : leg ∈ legs) (written : property ∈ leg.written) :
    ∃ early late, legs = early ++ leg :: late ∧ r.providerOf? property = some leg.turn.node.definition ∧
      leg.turn.world.store.get? property = w'.store.get? property ∧
      (∀ other ∈ early ++ late, property ∉ other.written) ∧
      ∀ other ∈ legs, Registry.Requires fixtures other.turn.node.definition property → other ∈ late := by
  obtain ⟨known, -⟩ := course.node built registered member
  have provides := own leg member property written
  have provided := built.providerOf?_eq_some_iff.mpr ⟨known, provides⟩
  have lasts := (course.get?_of_provides built registered own member provides).2
  obtain ⟨early, late, rfl⟩ := List.append_of_mem member
  obtain ⟨first, last, -⟩ := course.apart
  refine ⟨early, late, rfl, provided, lasts, fun other there => ?_, fun other there required => ?_⟩
  · rcases List.mem_append.mp there with before | after
    · exact course.unwritten built registered own known provides (List.mem_append_left _ before) (first other before)
    · exact course.unwritten built registered own known provides
        (List.mem_append_right _ (List.mem_cons_of_mem _ after)) (last other after)
  · exact course.mem_late there (.provider required provided)

/-- The store has nothing to log if no test writes a property twice. -/
theorem quiet (world : w.store = .declaring r.providedProperties) (once : ∀ leg ∈ legs, leg.written.Nodup)
    (member : leg ∈ legs) : Quiet leg.turn.events := by
  obtain ⟨known, -⟩ := course.node built registered member
  refine (course.taken member).quiet (once leg member) fun property written => ⟨?_, ?_⟩
  · have provides := own leg member property written
    rw [Store.contains_eq, (course.get?_of_provides built registered own member provides).1, world]
    rfl
  · have provided := built.mem_providedProperties_iff.mpr ⟨_, known, own leg member property written⟩
    rw [course.chain.declared leg member, world]
    exact SortedSet.mem_ofList.mpr provided

end Course

end Leg

namespace Runner

variable {σ : Type} [Transport σ] {r : Runner σ} {options : RunOptions} {startedAt : Timestamp} {debug : Bool}
  {outcome : RunOutcome}

/--
If each test writes its own properties only, a test that runs finds what it requires as it is at the end of
the run, and what is there at the end was written by the one test that provides it, which has run before all
that require it. If moreover no test writes a property twice, the log has neither a second write of a property
nor one of a property that no test declares.
-/
theorem written_once (built : r.registry.Built) (own : ∀ leg ∈ r.course options debug, leg.WritesOwn)
    (completed : (r.run options startedAt debug).result = .ok outcome) :
    outcome.tests = (r.course options debug).map (fun leg => leg.turn.record) ∧
      (∀ leg ∈ r.course options debug, leg.turn.record.skipReason = none →
        ∀ property, Registry.Requires (r.fixtures options) leg.turn.node.definition property →
          ∃ value, leg.bench.store.get? property = some value ∧ outcome.properties.get? property = some value) ∧
      (∀ property value, outcome.properties.get? property = some value →
        ∃ early leg late, r.course options debug = early ++ leg :: late ∧
          r.registry.providerOf? property = some leg.turn.node.definition ∧
          leg.turn.record.skipReason = none ∧ property ∈ leg.written ∧
          leg.turn.world.store.get? property = some value ∧
          (∀ other ∈ early ++ late, property ∉ other.written) ∧
          ∀ other ∈ r.course options debug,
            Registry.Requires (r.fixtures options) other.turn.node.definition property → other ∈ late) ∧
      ((∀ leg ∈ r.course options debug, leg.written.Nodup) →
        ∀ property, .propertySetAgain property ∉ (r.run options startedAt debug).events ∧
          .propertyUndeclared property ∉ (r.run options startedAt debug).events) := by
  obtain ⟨fetcher, last, -, course, tests, properties, -, events⟩ := exists_last built completed
  have registered := registered_of_candidate r options
  refine ⟨tests, fun leg member ran property required => ?_, fun property value found => ?_, fun once => ?_⟩
  · obtain ⟨-, atLeg⟩ := course.node built registered member
    have needed := (Registry.mem_requires_iff atLeg).mpr required
    have present := (course.taken member).contains_of_ran ran needed
    obtain ⟨value, found⟩ := Option.isSome_iff_exists.mp present
    have same := course.get?_of_requires built registered own member required
    rw [properties]
    exact ⟨value, found, same.symm.trans found⟩
  · have present : outcome.properties.contains property = true := SortedMap.contains_iff.mpr ⟨value, found⟩
    obtain ⟨leg, member, written⟩ := (properties_contains_iff built completed).mp present
    obtain ⟨early, late, split, provided, lasts, apart, later⟩ :=
      course.exists_writer built registered own member written
    rw [properties] at found
    exact ⟨early, leg, late, split, provided, Leg.ran_of_mem_written written, written, lasts.trans found, apart, later⟩
  · have quiet : Quiet (r.run options startedAt debug).events := by
      rw [events]
      simp only [Quiet.append_iff, Quiet.cons_iff]
      refine ⟨⟨.map (fun _ => rfl) _, r.construct_quiet options⟩, ⟨rfl, ?_⟩, rfl, .nil⟩
      exact .flatMap fun leg member => course.quiet built registered own rfl once member
    intro property
    refine ⟨fun member => ?_, fun member => ?_⟩
    · cases quiet _ member
    · cases quiet _ member

/-- The test that requires the property finds what the reset has written. -/
theorem written_once_of_reset :
    let r : Runner Script :=
      { new .default .standard (.ofReplies []) with
        registry := (Registry.empty.registerAll [afterReset, resetTest] 0).registry }
    r.registry.Built ∧ (∀ leg ∈ r.course ⟨none, false⟩ false, leg.WritesOwn ∧ leg.written.Nodup) ∧ ∃ outcome,
      (r.run ⟨none, false⟩ default false).result = .ok outcome ∧
      .propertySetAgain "reset" ∉ (r.run ⟨none, false⟩ default false).events ∧
      ∃ leg ∈ r.course ⟨none, false⟩ false, leg.turn.node.name = "AfterReset" ∧ ∃ value,
        leg.bench.store.get? "reset" = some value ∧ outcome.properties.get? "reset" = some value := by
  intro r
  have built : r.registry.Built := .registerAll .empty _ _
  have definitions : r.registry.definitions = [afterReset, resetTest] := rfl
  have either : ∀ d ∈ r.registry.definitions, d = resetTest ∨ d = afterReset :=
    fun d member => (List.mem_pair.mp (definitions ▸ member)).symm
  have known : resetTest ∈ r.registry.definitions := List.mem_cons_of_mem _ List.mem_cons_self
  have waits : afterReset ∈ r.registry.definitions := List.mem_cons_self
  obtain ⟨outcome, completed⟩ : ∃ outcome, (r.run ⟨none, false⟩ default false).result = .ok outcome :=
    exists_outcome_of_pair built rfl known either List.mem_cons_self nofun nofun fun _ => rfl
  obtain ⟨p, last, course, -, properties⟩ := exists_course built completed
  have registered := registered_of_candidate r ⟨none, false⟩
  have own : ∀ leg ∈ r.course ⟨none, false⟩ false, leg.WritesOwn := by
    intro leg member property written
    obtain ⟨here, -⟩ := course.node built registered member
    obtain ⟨w, made⟩ := exists_make built completed member
    have writes : leg.turn.node.fixture.body.WritesOnly (· ∈ leg.turn.node.definition.provides) := by
      rw [made]
      rcases either _ here with same | same
      · rw [same]
        exact ⟨List.mem_cons_self, trivial⟩
      · rw [same]
        exact fun _ => trivial
    exact (course.taken member).of_mem_written writes written
  have once : ∀ leg ∈ r.course ⟨none, false⟩ false, leg.written.Nodup := by
    intro leg member
    obtain ⟨here, -⟩ := course.node built registered member
    obtain ⟨w, made⟩ := exists_make built completed member
    rcases (course.taken member).passedOver_or_carriedOut with ⟨skipped, -⟩ | carried
    · rw [Leg.written_of_skipped skipped]
      exact List.nodup_nil
    · rw [Leg.written_of_ran carried.ran, made]
      rcases either _ here with same | same
      · rw [same]
        exact List.nodup_singleton _
      · rw [same]
        exact List.nodup_nil
  obtain ⟨-, found, -, log⟩ := written_once built own completed
  -- Nothing keeps the reset from running, so the property is set when the other test has its turn.
  obtain ⟨reset, atReset, resetNode⟩ := exists_leg_of_asked built completed (.of_registered known)
  have resetFixture : r.fixtures ⟨none, false⟩ resetTest = .ofBody _ :=
    fixtures_eq built completed atReset resetNode fun _ => rfl
  have carried := (course.taken atReset).carriedOut_of_free resetNode resetFixture nofun
  have writes : "reset" ∈ reset.written := by
    rw [Leg.written_of_ran carried.ran, resetNode, TestNode.ofDefinition, resetFixture]
    exact List.mem_singleton_self _
  have set := (properties_contains_iff built completed).mpr ⟨reset, atReset, writes⟩
  obtain ⟨leg, member, atLeg⟩ := exists_leg_of_asked built completed (.of_registered waits)
  have fixture : r.fixtures ⟨none, false⟩ afterReset = .ofBody _ :=
    fixtures_eq built completed member atLeg fun _ => rfl
  have required : Registry.Requires (r.fixtures ⟨none, false⟩) leg.turn.node.definition "reset" := by
    rw [atLeg]
    exact .inl List.mem_cons_self
  have ready : leg.start.store.firstMissing? leg.turn.node.requires.toList = none := by
    refine Store.firstMissing?_eq_none_iff.mpr fun property needed => ?_
    have only : property ∈ afterReset.requires := by
      rcases (Registry.mem_requires_iff atLeg).mp needed with only | asked
      · exact only
      · rw [fixture] at asked
        cases asked
    rw [List.mem_singleton.mp only, Store.contains_eq,
      course.get?_of_requires built registered own member required, ← Store.contains_eq]
    rwa [properties] at set
  have sound : leg.turn.node.fixture.state ≠ .broken := by
    intro broken
    rw [atLeg, TestNode.ofDefinition, fixture] at broken
    cases broken
  have ran := (course.taken member).carriedOut sound ready
  refine ⟨built, fun leg member => ⟨own leg member, once leg member⟩, outcome, completed, (log once "reset").1,
    leg, member, by rw [atLeg]; rfl, ?_⟩
  exact found leg member (by rw [Turn.record, ran.verdict_eq, Verdict.skipReason]) "reset" required

end Runner

end Conformance
