import Conformance.Proofs.Run.Course

/-!
# What the records of a run say

A turn has one of three fates, and the record tells which: the fixture was broken, a required property was
missing, or the body was carried out (`Leg.Meets`). `run_records` says so of every record of an outcome; it
tells which bodies were carried out by a note that is put in front of each of them, and what the progress was
before each turn.
-/

namespace Conformance

/-! ### Marks -/

/-- The test with a note in front of its body. -/
def TestNode.marked (entry : Note) (n : TestNode) : TestNode :=
  { n with fixture := { n.fixture with body := .note entry n.fixture.body } }

namespace Turn

variable {σ : Type} [Transport σ] {p : RunPlan} {n : TestNode} {last : Bool} {completed : Nat} {w : World σ}

/-- The turn of the marked test: the mark stands in front of the notes if the body was carried out. -/
def marked (mark : TestNode → Note) (t : Turn σ) : Turn σ :=
  { t with
    node := t.node.marked (mark t.node)
    notes := (if t.verdict.skipReason = none then [mark t.node] else []) ++ t.notes }

theorem execute_marked (entry : Note) (n : TestNode) (w : World σ) :
    execute (n.marked entry) w =
      ((execute n w).1, { (execute n w).2 with notes := #[entry] ++ (execute n w).2.notes }) := by
  have body := n.fixture.body.run_notes #[entry]
    { w with warnings := n.fixture.warnings, notes := #[], events := #[] }
  have first : (n.marked entry).fixture.body.run
      { w with warnings := n.fixture.warnings, notes := #[], events := #[] } =
        n.fixture.body.run { w with warnings := n.fixture.warnings, notes := #[entry] ++ #[], events := #[] } := rfl
  unfold execute
  rw [show (n.marked entry).fixture.warnings = n.fixture.warnings from rfl, first, body]

theorem take_marked (mark : TestNode → Note) :
    take p (n.marked (mark n)) last completed w = (take p n last completed w).marked mark := by
  by_cases broken : n.fixture.state = .broken
  · rw [take_broken broken, take_broken (n := n.marked (mark n)) broken]
    rfl
  · cases missing : w.store.firstMissing? n.requires.toList with
    | some property =>
      rw [take_missing broken missing, take_missing (n := n.marked (mark n)) broken missing]
      rfl
    | none =>
      rw [take_ran broken missing, take_ran (n := n.marked (mark n)) broken missing]
      unfold carryOut marked
      rw [execute_marked]
      simp only [Array.toList_append]
      rfl

theorem takeAll_marked (p : RunPlan) (mark : TestNode → Note) (nodes : List TestNode) (completed : Nat)
    (w : World σ) :
    takeAll p (nodes.map fun n => n.marked (mark n)) completed w =
      (takeAll p nodes completed w).map (marked mark) := by
  induction nodes generalizing completed w with
  | nil => rfl
  | cons n rest ih =>
    rw [List.map_cons, takeAll, takeAll, List.map_cons, List.isEmpty_map, take_marked]
    exact congrArg _ (ih _ _)

/-- Before each turn the progress tells how many of those before it were not of broken tests. -/
theorem progress_takeAll (p : RunPlan) (nodes : List TestNode) (completed : Nat) (w : World σ) (i : Nat) :
    ((takeAll p nodes completed w).map progress)[i]? =
      ((takeAll p nodes completed w)[i]?).map fun _ =>
        (completed + ((takeAll p nodes completed w).take i).countP (·.verdict.completes), p.total) := by
  induction nodes generalizing completed w i with
  | nil => rfl
  | cons n rest ih =>
    rw [takeAll]
    cases i with
    | zero => simp [progress_take]
    | succ i =>
      rw [List.map_cons, List.getElem?_cons_succ, List.getElem?_cons_succ, List.take_succ_cons, List.countP_cons, ih]
      by_cases counts : (take p n rest.isEmpty completed w).verdict.completes = true
      · simp only [counts, if_true, Nat.add_comm _ 1, ← Nat.add_assoc]
      · simp only [counts, if_false, Bool.false_eq_true, Nat.add_zero]

end Turn

/-! ### Fates -/

inductive Fate where
  | broken
  | missing (property : String)
  | ran

def Verdict.fate : Verdict → Fate
  | .broken => .broken
  | .missing property => .missing property
  | .ran _ _ _ => .ran

namespace Leg

variable {σ : Type} [Transport σ] {fixtures : Fixtures} {d : TestDefinition} {p : RunPlan} {leg : Leg σ}

/-- What becomes of the test in its turn, and the record of it. -/
inductive Meets (leg : Leg σ) (fixtures : Fixtures) (d : TestDefinition) : Fate → Prop
  | broken : (fixtures d).state = .broken → leg.PassedOver .broken →
      leg.turn.record = ⟨d.name, d.description, .broken, .zero, some "broken after init", [],
        some leg.turn.drain.report⟩ →
      Meets leg fixtures d .broken
  | missing {property : String} : (fixtures d).state ≠ .broken → Registry.Requires fixtures d property →
      leg.start.store.contains property = false →
      (∀ other < property, Registry.Requires fixtures d other → leg.start.store.contains other = true) →
      leg.PassedOver (.missing property) →
      leg.turn.record = ⟨d.name, d.description, .notRun, .zero, some s!"property {property} not found", [],
        some leg.turn.drain.report⟩ →
      Meets leg fixtures d (.missing property)
  | ran : (fixtures d).state ≠ .broken →
      (∀ property, Registry.Requires fixtures d property → leg.bench.store.contains property = true) →
      leg.CarriedOut →
      leg.turn.record = ⟨d.name, d.description, leg.result.1, .ofNanos (leg.result.2.clock - leg.bench.clock), none,
        leg.result.2.warnings, some leg.turn.drain.report⟩ →
      Meets leg fixtures d .ran

theorem Taken.exists_fate (taken : leg.Taken p) (atD : leg.turn.node = .ofDefinition fixtures d) :
    ∃ fate, leg.Meets fixtures d fate := by
  have fixture : leg.turn.node.fixture = fixtures d := by
    rw [atD]
    rfl
  have requires (property : String) : property ∈ leg.turn.node.requires ↔ Registry.Requires fixtures d property :=
    Registry.mem_requires_iff atD
  by_cases broken : (fixtures d).state = .broken
  · have passed := taken.passedOver_broken (fixture ▸ broken)
    refine ⟨_, .broken broken passed ?_⟩
    rw [Turn.record, passed.verdict_eq, atD]
    rfl
  · have sound : leg.turn.node.fixture.state ≠ .broken := fixture ▸ broken
    cases found : leg.start.store.firstMissing? leg.turn.node.requires.toList with
    | some property =>
      have passed := taken.passedOver_missing sound found
      obtain ⟨required, absent, least⟩ := Store.firstMissing?_eq_some_iff.mp found
      refine ⟨_, .missing broken ((requires property).mp required) absent (fun other less needed => ?_) passed ?_⟩
      · exact least other ((requires other).mpr needed) less
      · have instant : (Verdict.missing property).nanos = 0 := rfl
        rw [Turn.record, passed.verdict_eq, atD, instant]
        rfl
    | none =>
      have carried := taken.carriedOut sound found
      have present := Store.firstMissing?_eq_none_iff.mp found
      refine ⟨_, .ran broken (fun property required => ?_) carried ?_⟩
      · exact present property ((requires property).mpr required)
      · rw [Turn.record, carried.verdict_eq, atD]
        rfl

theorem Meets.fate_eq {fate : Fate} (meets : leg.Meets fixtures d fate) : leg.turn.verdict.fate = fate := by
  cases meets with
  | broken _ passed _ =>
    rw [passed.verdict_eq]
    rfl
  | missing _ _ _ _ passed _ =>
    rw [passed.verdict_eq]
    rfl
  | ran _ _ carried _ =>
    rw [carried.verdict_eq]
    rfl

end Leg

namespace Runner

variable {σ : Type} [Transport σ] {r : Runner σ} {options : RunOptions} {startedAt : Timestamp} {debug : Bool}
  {outcome : RunOutcome}

/-- Marks change nothing in a run but the notes, and there they stand where a body was carried out. -/
theorem runOrdered_marked (r : Runner σ) (options : RunOptions) (startedAt : Timestamp) (debug : Bool)
    (mark : TestNode → Note) (fetcher : Fetcher) (nodes : List TestNode) :
    ((r.furnish options).runOrdered options startedAt debug fetcher (nodes.map fun n => n.marked (mark n))).result =
        ((r.furnish options).runOrdered options startedAt debug fetcher nodes).result ∧
      ((r.furnish options).runOrdered options startedAt debug fetcher (nodes.map fun n => n.marked (mark n))).notes =
        (r.turns options fetcher debug nodes).flatMap fun t => (t.marked mark).notes := by
  unfold runOrdered
  dsimp only
  rw [List.length_map, Turn.takeAll_marked, List.getLast?_map, Option.map_map, List.flatMap_map]
  constructor
  · unfold outcome
    rw [List.map_map]
    rfl
  · rfl

/-- What is announced before each turn, in the words of the records. -/
theorem progress_turns (fetcher : Fetcher) (nodes : List TestNode) (i : Nat) :
    ((r.turns options fetcher debug nodes).map Turn.progress)[i]? =
      ((r.turns options fetcher debug nodes).map Turn.record)[i]?.map fun _ =>
        ((((r.turns options fetcher debug nodes).map Turn.record).take i).countP
            (·.skipReason ≠ some "broken after init"),
          ((r.turns options fetcher debug nodes).map Turn.record).length) := by
  have announced : ((r.turns options fetcher debug nodes).map Turn.progress)[i]? =
      (r.turns options fetcher debug nodes)[i]?.map fun _ =>
        (0 + ((r.turns options fetcher debug nodes).take i).countP (·.verdict.completes), nodes.length) :=
    Turn.progress_takeAll _ nodes 0 (r.start options) i
  have counted : ∀ t : Turn σ, t.verdict.completes = decide (t.record.skipReason ≠ some "broken after init") := by
    intro t
    rw [Bool.eq_iff_iff, Verdict.completes_iff, decide_eq_true_iff]
    rfl
  have total : nodes.length = ((r.turns options fetcher debug nodes).map Turn.record).length := by
    rw [List.length_map, ← List.length_map Turn.node, map_node_turns]
  rw [announced, total, List.getElem?_map, Option.map_map, ← List.map_take, List.countP_map]
  simp only [counted, Nat.zero_add]
  rfl

/--
Every record is of a turn in which just one of three things was so: the test was broken, a required property
was missing, or its body was carried out. The turns lead from the world that the factories have left to the
properties of the outcome, the bodies that were carried out are those of the records without a skip reason, in
their order, and each turn is announced with the number of those before it that were not of broken tests.
-/
theorem run_records (built : r.registry.Built) (completed : (r.run options startedAt debug).result = .ok outcome) :
    outcome.tests = (r.course options debug).map (fun leg => leg.turn.record) ∧ outcome.order.Nodup ∧
      (∀ leg ∈ r.course options debug, ∃ d ∈ r.registry.definitions,
        leg.turn.node = .ofDefinition (r.fixtures options) d ∧ ∃! fate, leg.Meets (r.fixtures options) d fate) ∧
      (∀ fetcher, r.fetcher = .ok fetcher →
        (∃ last, Leg.Chain (r.plan fetcher debug outcome.tests.length) (r.start options) (r.course options debug) last ∧
          outcome.properties = last.store.values) ∧
        ∀ mark : TestNode → Note,
          let marked := (r.furnish options).runOrdered options startedAt debug fetcher
            ((r.course options debug).map fun leg => leg.turn.node.marked (mark leg.turn.node))
          marked.result = .ok outcome ∧
            marked.notes = (r.course options debug).flatMap fun leg =>
              (if leg.turn.record.skipReason = none then [mark leg.turn.node] else []) ++ leg.turn.notes) ∧
      ∀ i, (r.run options startedAt debug).progress[i]? = outcome.tests[i]?.map fun _ =>
        ((outcome.tests.take i).countP (·.skipReason ≠ some "broken after init"), outcome.tests.length) := by
  obtain ⟨p, last, course, tests, -⟩ := exists_course built completed
  obtain ⟨fetcher, nodes, known, scheduled, legs, ended, progress⟩ := run_course built completed
  have once : outcome.order.Nodup := by
    rw [names_eq built completed]
    exact course.scheduled.names_nodup
  have turns : (r.course options debug).map Leg.turn = r.turns options fetcher debug nodes := by
    rw [legs, Leg.map_turn_ofTurns]
  have records : outcome.tests = (r.turns options fetcher debug nodes).map Turn.record := by
    rw [tests, ← turns, List.map_map]
    rfl
  have total : outcome.tests.length = nodes.length := by
    rw [records, List.length_map, ← List.length_map Turn.node, map_node_turns]
  refine ⟨tests, once, fun leg member => ?_, fun fetcher' known' => ⟨?_, fun mark => ?_⟩, fun i => ?_⟩
  · obtain ⟨here, atD⟩ := course.node built (registered_of_candidate r options) member
    obtain ⟨fate, meets⟩ := (course.taken member).exists_fate atD
    exact ⟨_, here, atD, fate, meets, fun other meets' => meets'.fate_eq.symm.trans meets.fate_eq⟩
  · have same : fetcher' = fetcher := Except.ok.inj (known'.symm.trans known)
    rw [same, legs, total]
    refine ⟨_, Leg.Chain.takeAll (r.plan fetcher debug nodes.length) nodes 0 (r.start options), ?_⟩
    rw [← Except.ok.inj ended]
    rfl
  · have same : fetcher' = fetcher := Except.ok.inj (known'.symm.trans known)
    have atNodes : ((r.course options debug).map fun leg => leg.turn.node.marked (mark leg.turn.node)) =
        nodes.map fun n => n.marked (mark n) := by
      have taken : (r.turns options fetcher debug nodes).map Turn.node = nodes := map_node_turns nodes
      rw [← taken, ← turns, List.map_map, List.map_map]
      rfl
    dsimp only
    rw [same, atNodes]
    obtain ⟨result, notes⟩ := runOrdered_marked r options startedAt debug mark fetcher nodes
    refine ⟨result.trans ended, notes.trans ?_⟩
    rw [← turns, List.flatMap_map]
    rfl
  · rw [progress, records]
    exact progress_turns fetcher nodes i

/-- Cannot be made ready. -/
def brokenReset : TestDefinition := { resetTest with factory := fun _ => .brokenOf (.done .passed) }

theorem run_records_of_brokenReset :
    let r : Runner Script :=
      { new .default .standard (.ofReplies []) with
        registry := (Registry.empty.registerAll [afterReset, brokenReset] 0).registry }
    r.registry.Built ∧ ∃ outcome, (r.run ⟨none, false⟩ default false).result = .ok outcome ∧
      ∃ record ∈ outcome.tests, record.name = "ResetFactoryDefaults" ∧ record.state = .broken ∧
        record.skipReason = some "broken after init" := by
  intro r
  have built : r.registry.Built := .registerAll .empty _ _
  have definitions : r.registry.definitions = [afterReset, brokenReset] := rfl
  have known : brokenReset ∈ r.registry.definitions := List.mem_cons_of_mem _ List.mem_cons_self
  have either : ∀ d ∈ r.registry.definitions, d = brokenReset ∨ d = afterReset :=
    fun d member => (List.mem_pair.mp (definitions ▸ member)).symm
  obtain ⟨outcome, completed⟩ : ∃ outcome, (r.run ⟨none, false⟩ default false).result = .ok outcome :=
    exists_outcome_of_pair built rfl known either List.mem_cons_self nofun nofun fun _ => rfl
  have asked : r.Asked ⟨none, false⟩ brokenReset := .of_registered known
  obtain ⟨record, held, named⟩ := exists_record built completed asked
  obtain ⟨tests, -, meets, -⟩ := run_records built completed
  obtain ⟨leg, member, rfl⟩ := List.mem_map.mp (tests ▸ held)
  obtain ⟨d, registered, atD, fate, met, -⟩ := meets leg member
  have ofD : leg.turn.record.name = d.name := by
    rw [Turn.record, atD]
    rfl
  have same : d = brokenReset := built.eq_of_name registered known (ofD.symm.trans named)
  subst same
  have fixture : r.fixtures ⟨none, false⟩ brokenReset = .brokenOf _ :=
    fixtures_eq built completed member atD fun _ => rfl
  have broken : (r.fixtures ⟨none, false⟩ brokenReset).state = .broken := by
    rw [fixture]
    rfl
  cases met with
  | broken _ _ entry => exact ⟨built, outcome, completed, _, held, named, by rw [entry], by rw [entry]⟩
  | missing sound => exact absurd broken sound
  | ran sound => exact absurd broken sound

end Runner

end Conformance
