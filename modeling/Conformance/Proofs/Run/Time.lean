import Conformance.Proofs.Drain.Limits
import Conformance.Proofs.Run.Course
import Conformance.Proofs.Run.Factories

/-!
# How long a run takes

A leg takes the time of its drain and, if its body is carried out, that of the body; a pause follows the body unless
the leg is the last (`Leg.timed_of_getElem?`). The record keeps the time of the body alone. `Leg.Chain.clock_eq` adds
the legs up, and `Runner.run_times` is what that comes to for the outcome.
-/

namespace Conformance

namespace Leg

variable {σ : Type} [Transport σ] {p : RunPlan} {w w' : World σ} {leg : Leg σ} {legs : List (Leg σ)} {n : TestNode}
  {last : Bool} {completed : Nat}

/-- The time that the body of the leg takes, if it is carried out. -/
def spent (leg : Leg σ) : Nat :=
  if leg.turn.verdict.skipReason = none then leg.turn.node.fixture.body.spent leg.bench else 0

/-- Where the time of a leg goes, with the given pause at its end. -/
structure Timed (fetcher : Fetcher) (pause : Nat) (leg : Leg σ) : Prop where
  drain_eq : leg.turn.drain = fetcher.drainAll leg.start.transport
  elapsed_eq : leg.turn.drain.elapsed = (fetcher.latencies leg.start.transport).sum +
    ((fetcher.accepted leg.start.transport).map Span.sleepNanos).sum
  /-- All waits are accepted that the drain is asked for, but for one that hits the limit. -/
  length_delays : (fetcher.delays leg.start.transport).length = leg.turn.drain.report.ackTimersScheduled +
    if leg.turn.drain.report.reason = .ackTimerLimit fetcher.ackTimerLimit then 1 else 0
  duration_eq : leg.turn.record.duration = .ofNanos leg.spent
  clock_eq : leg.turn.world.clock = leg.start.clock + (leg.turn.drain.elapsed + leg.spent) + pause

theorem Taken.nanos_eq (taken : leg.Taken p) : leg.turn.verdict.nanos = leg.spent := by
  rw [spent]
  rcases taken.passedOver_or_carriedOut with ⟨skipped, -⟩ | carried
  · rw [if_neg skipped, Verdict.nanos_of_skipped skipped]
  · rw [if_pos carried.ran, carried.verdict_eq, Verdict.nanos, result, Body.clock_run, Nat.add_sub_cancel_left]

/-- The time from the start of a leg to the start of the next. -/
theorem clock_of_take (same : leg.turn = Turn.take p n last completed leg.start) :
    leg.turn.world.clock = leg.start.clock + (leg.turn.drain.elapsed + leg.spent) +
      if leg.turn.verdict.skipReason = none then Turn.pause p last else 0 := by
  have taken : leg.Taken p := ⟨n, last, completed, same⟩
  have node : leg.turn.node = n := by rw [same, Turn.node_take]
  rw [← node] at same
  rw [spent]
  rcases Turn.take_cases p leg.turn.node last completed leg.start with carried | ⟨verdict, skipped, passed⟩
  · have turn := same.trans carried
    rw [Turn.carryOut, taken.execute_eq] at turn
    have ran : leg.turn.verdict.skipReason = none := by
      rw [congrArg Turn.verdict turn]
      rfl
    have clock : leg.turn.world.clock = leg.result.2.clock + Turn.pause p last :=
      congrArg (fun t => t.world.clock) turn
    have bench : leg.bench.clock = leg.start.clock + leg.turn.drain.elapsed := rfl
    rw [if_pos ran, if_pos ran, clock, result, Body.clock_run, bench, ← Nat.add_assoc]
  · have turn := same.trans passed
    have skipped : leg.turn.verdict.skipReason ≠ none := congrArg Turn.verdict turn ▸ skipped
    have clock : leg.turn.world.clock = (Turn.drained p leg.start).clock := congrArg (fun t => t.world.clock) turn
    rw [if_neg skipped, if_neg skipped, clock, taken.drain_eq]
    rfl

theorem timed_of_take (same : leg.turn = Turn.take p n last completed leg.start) :
    leg.Timed p.fetcher (if leg.turn.verdict.skipReason = none then Turn.pause p last else 0) := by
  have taken : leg.Taken p := ⟨n, last, completed, same⟩
  obtain ⟨elapsed, delays⟩ := p.fetcher.elapsed_drainAll leg.start.transport
  rw [← taken.drain_eq] at elapsed delays
  exact ⟨taken.drain_eq, elapsed, delays, congrArg Span.ofNanos taken.nanos_eq, clock_of_take same⟩

/-- The leg at a place is the last if no other follows. -/
theorem exists_take_of_getElem? {nodes : List TestNode} {i : Nat}
    (found : (ofTurns w (Turn.takeAll p nodes completed w))[i]? = some leg) :
    ∃ n completed, leg.turn = Turn.take p n (decide (nodes.length ≤ i + 1)) completed leg.start := by
  induction nodes generalizing completed i w with
  | nil => cases found
  | cons n rest ih =>
    cases i with
    | zero =>
      cases found
      refine ⟨n, completed, ?_⟩
      cases rest <;> rfl
    | succ i =>
      obtain ⟨n, completed, same⟩ := ih found
      refine ⟨n, completed, ?_⟩
      simpa using same

theorem timed_of_getElem? {nodes : List TestNode} {i : Nat}
    (found : (ofTurns w (Turn.takeAll p nodes completed w))[i]? = some leg) :
    leg.Timed p.fetcher
      (if leg.turn.verdict.skipReason = none ∧ i + 1 < nodes.length then p.interTestDelay.sleepNanos else 0) := by
  obtain ⟨n, completed, same⟩ := exists_take_of_getElem? found
  have timed := timed_of_take same
  simp only [Turn.pause, decide_eq_true_eq, ← Nat.not_lt, ite_not] at timed
  rwa [ite_and]

/-- Legs take the time of all drains and bodies, and a pause after each body but that of the last leg. -/
theorem Chain.clock_eq {fetcher : Fetcher} {pause : Nat} (chain : Chain p w legs w')
    (timed : ∀ (i : Nat) (leg : Leg σ), legs[i]? = some leg →
      leg.Timed fetcher (if leg.turn.verdict.skipReason = none ∧ i + 1 < legs.length then pause else 0)) :
    w'.clock = w.clock + ((legs.map fun leg => leg.turn.drain.elapsed + leg.spent).sum +
      pause * legs.dropLast.countP fun leg => leg.turn.verdict.skipReason = none) := by
  induction chain with
  | nil => simp
  | @cons leg rest w' taken _ ih =>
    have first := (timed 0 leg rfl).clock_eq
    have later := ih fun i next found => by simpa using timed (i + 1) next found
    rw [later, first, List.map_cons, List.sum_cons]
    cases rest with
    | nil => simp
    | cons next rest =>
      have follows : 0 + 1 < (leg :: next :: rest).length := by simp
      rw [List.dropLast_cons_cons, List.countP_cons]
      by_cases ran : leg.turn.verdict.skipReason = none
      · simp only [ran, follows, and_self, if_true, decide_true, Nat.mul_add, Nat.mul_one]
        omega
      · simp only [ran, false_and, if_false, decide_false, Bool.false_eq_true, Nat.add_zero]
        omega

theorem Timed.elapsed_of_whole {fetcher : Fetcher} {pause : Nat} (timed : leg.Timed fetcher pause)
    (whole : ∀ delay ∈ fetcher.accepted leg.start.transport, delay.Whole) :
    leg.turn.drain.elapsed = (fetcher.latencies leg.start.transport).sum +
      ((fetcher.accepted leg.start.transport).map Span.toNanos).sum := by
  rw [timed.elapsed_eq, List.map_congr_left fun delay member => (whole delay member).sleepNanos_eq]

theorem sum_durations {fetcher : Fetcher} (timed : ∀ leg ∈ legs, ∃ pause, leg.Timed fetcher pause)
    (fits : (legs.map fun leg => leg.turn.drain.elapsed + leg.spent).sum < 2 ^ 64 * nanosPerSec) :
    (legs.map fun leg => leg.turn.drain.elapsed + leg.turn.record.duration.toNanos).sum =
      (legs.map fun leg => leg.turn.drain.elapsed + leg.spent).sum := by
  refine congrArg List.sum (List.map_congr_left fun leg member => ?_)
  obtain ⟨pause, timed⟩ := timed leg member
  have part := List.le_sum_of_mem (List.mem_map_of_mem (f := fun leg => leg.turn.drain.elapsed + leg.spent) member)
  rw [timed.duration_eq, Span.toNanos_ofNanos (by omega)]

end Leg

namespace Runner

variable {σ : Type} [Transport σ] {r : Runner σ} {options : RunOptions} {startedAt : Timestamp} {debug : Bool}
  {outcome : RunOutcome}

/-- Behind an outcome there are legs that each take their time, up to the last. -/
theorem exists_timed (built : r.registry.Built) (completed : (r.run options startedAt debug).result = .ok outcome) :
    let legs := r.course options debug
    ∃ fetcher last, r.fetcher = .ok fetcher ∧
      Leg.Chain (r.plan fetcher debug outcome.tests.length) (r.start options) legs last ∧
      (r.run options startedAt debug).runner = r.resume last.toEquipment ∧
      outcome.tests = legs.map (fun leg => leg.turn.record) ∧ outcome.duration = .ofNanos (last.clock - r.clock) ∧
      ∀ (i : Nat) leg, legs[i]? = some leg →
        leg.Timed fetcher (if leg.turn.record.skipReason = none ∧ i + 1 < legs.length
          then r.settings.interTestDelay.sleepNanos else 0) := by
  intro legs
  obtain ⟨fetcher, nodes, known, -, turns, ended, whole⟩ := run_eq built completed
  have turns : legs = Leg.ofTurns (r.start options) (r.turns options fetcher debug nodes) := turns
  have same : (r.furnish options).outcome options startedAt (r.turns options fetcher debug nodes)
      (Turn.final (r.turns options fetcher debug nodes) (r.start options)) = outcome := Except.ok.inj ended
  have mapped : legs.map Leg.turn = r.turns options fetcher debug nodes := by rw [turns, Leg.map_turn_ofTurns]
  have tests : outcome.tests = legs.map fun leg => leg.turn.record := by
    rw [← same, Runner.outcome, ← mapped, List.map_map]
    rfl
  have length : nodes.length = legs.length := by
    rw [turns, ← List.length_map Leg.turn, Leg.map_turn_ofTurns, ← List.length_map Turn.node, map_node_turns]
  have total : outcome.tests.length = nodes.length := by rw [tests, List.length_map, length]
  refine ⟨fetcher, _, known, ?_, congrArg RunResult.runner whole, tests, ?_, fun i leg found => ?_⟩
  · rw [turns, total]
    exact Leg.Chain.takeAll _ nodes 0 (r.start options)
  · rw [← r.clock_start options]
    exact (congrArg RunOutcome.duration same).symm
  · rw [← length]
    rw [turns] at found
    exact Leg.timed_of_getElem? found

/--
The time of a run with an outcome. Each leg takes the time of its drain, then that of its body, if that is carried
out, and then the pause between tests, if the body was carried out and another leg follows. A drain takes as long as
the replies that it consumes and the waits that it accepts. The record of a test has the time of its body, and the
outcome the time of all legs. Making the fixtures takes none.
-/
theorem run_times (built : r.registry.Built) (completed : (r.run options startedAt debug).result = .ok outcome) :
    let legs := r.course options debug
    let after := (r.run options startedAt debug).runner
    let pause := r.settings.interTestDelay.sleepNanos
    let pauses := outcome.tests.dropLast.countP fun record => record.skipReason = none
    let total := (legs.map fun leg => leg.turn.drain.elapsed + leg.spent).sum + pause * pauses
    ∃ fetcher last, r.fetcher = .ok fetcher ∧
      Leg.Chain (r.plan fetcher debug outcome.tests.length) (r.start options) legs last ∧
      after = r.resume last.toEquipment ∧
      outcome.tests = legs.map (fun leg => leg.turn.record) ∧
      (∀ (i : Nat) leg, legs[i]? = some leg →
        leg.Timed fetcher (if leg.turn.record.skipReason = none ∧ i + 1 < legs.length then pause else 0)) ∧
      after.clock = r.clock + total ∧ outcome.duration = .ofNanos total ∧
      (total < 2 ^ 64 * nanosPerSec → outcome.duration.toNanos =
        (legs.map fun leg => leg.turn.drain.elapsed + leg.turn.record.duration.toNanos).sum + pause * pauses) ∧
      (∀ leg ∈ legs, (∀ delay ∈ fetcher.accepted leg.start.transport, delay.Whole) →
        leg.turn.drain.elapsed = (fetcher.latencies leg.start.transport).sum +
          ((fetcher.accepted leg.start.transport).map Span.toNanos).sum) ∧
      (r.settings.interTestDelayMs.toNat ≤ Span.longestSleepMillis →
        pause = r.settings.interTestDelayMs.toNat * 1000000) := by
  intro legs after pause pauses total
  obtain ⟨fetcher, last, known, chain, runner, tests, duration, timed⟩ := exists_timed built completed
  have each : ∀ leg ∈ legs, ∃ rest, leg.Timed fetcher rest := by
    intro leg member
    obtain ⟨i, found⟩ := List.mem_iff_getElem?.mp member
    exact ⟨_, timed i leg found⟩
  have counted : pauses = legs.dropLast.countP fun leg => leg.turn.verdict.skipReason = none := by
    simp only [pauses, tests, ← List.map_dropLast, List.countP_map]
    rfl
  have clock := chain.clock_eq timed
  rw [← counted, r.clock_start] at clock
  have lasted : outcome.duration = .ofNanos total := by
    rw [duration, clock]
    exact congrArg Span.ofNanos (Nat.add_sub_cancel_left _ _)
  refine ⟨fetcher, last, known, chain, runner, tests, timed, (congrArg (fun r => r.clock) runner).trans clock, lasted,
    fun fits => ?_, fun leg member whole => ?_, fun short => ?_⟩
  · rw [lasted, Span.toNanos_ofNanos fits, Leg.sum_durations each (Nat.lt_of_le_of_lt (Nat.le_add_right _ _) fits)]
  · obtain ⟨rest, timed⟩ := each leg member
    exact timed.elapsed_of_whole whole
  · exact (Span.whole_ofMillis short).sleepNanos_eq.trans (Span.toNanos_ofMillis _)

/-! ### A suite of two naps -/

/-- Sleeps for seven milliseconds. -/
def napTest (name : String) : TestDefinition :=
  ⟨name, "", ∅, ∅, ∅, fun _ => .ofBody (.sleep (.ofMillis 7) (.done .passed))⟩

/-- Two naps with a pause between them. There is one reply, which says after a while that nothing is queued. -/
def napRunner : Runner Script :=
  { new { Settings.default with interTestDelayMs := 100 } .standard
      (.ofReplies [⟨.ok (.nack .queuedMessage .unknownPid), .ofMillis 20⟩]) with
    registry := (Registry.empty.registerAll [napTest "First", napTest "Second"] 0).registry }

theorem napRunner_built : napRunner.registry.Built := .registerAll .empty _ _

theorem napRunner_definitions : napRunner.registry.definitions = [napTest "First", napTest "Second"] := rfl

theorem napTest_free {fixtures : Fixtures} {name property : String}
    (asks : (fixtures (napTest name)).extraRequires = []) : ¬ Registry.Requires fixtures (napTest name) property := by
  rintro (⟨⟨⟩⟩ | asked)
  rw [asks] at asked
  cases asked

theorem napRunner_still : napRunner.FactoriesKeepTo fun _ => False := by
  intro d member w deed did
  rcases List.mem_pair.mp (napRunner_definitions ▸ member) with rfl | rfl <;> cases did

theorem napRunner_start (options : RunOptions) : (napRunner.start options).transport = napRunner.transport := by
  have nothing : napRunner.prepared options = [] := List.eq_nil_iff_forall_not_mem.mpr napRunner_still.prepared
  rw [transport_start, nothing]
  rfl

theorem exists_naps : ∃ outcome, (napRunner.run ⟨none, false⟩ default false).result = .ok outcome := by
  have always : DependencyGraph.AsksAlways Script napRunner.registry napRunner.setup modest := by
    intro d member w
    rcases List.mem_pair.mp (napRunner_definitions ▸ member) with rfl | rfl <;> rfl
  refine exists_outcome napRunner_built rfl always fun d asked => ?_
  rcases List.mem_pair.mp (napRunner_definitions ▸ asked.registered) with rfl | rfl
  · exact .of_free (fun _ => napTest_free rfl) nofun
  · exact .of_free (fun _ => napTest_free rfl) nofun

section Naps

variable (completed : (napRunner.run ⟨none, false⟩ startedAt debug).result = .ok outcome)

include completed

theorem naps_carriedOut : ∀ leg ∈ napRunner.course ⟨none, false⟩ debug, leg.CarriedOut ∧ leg.spent = 7000000 ∧
    leg.turn.world.transport = leg.turn.drain.transport := by
  intro leg member
  obtain ⟨p, last, course, -⟩ := exists_course napRunner_built completed
  obtain ⟨here, atLeg⟩ := course.node napRunner_built (registered_of_candidate _ _) member
  obtain ⟨name, nap⟩ : ∃ name, leg.turn.node.definition = napTest name := by
    rcases List.mem_pair.mp (napRunner_definitions ▸ here) with first | second
    · exact ⟨_, first⟩
    · exact ⟨_, second⟩
  rw [nap] at atLeg
  have fixture : napRunner.fixtures ⟨none, false⟩ (napTest name) = .ofBody _ :=
    fixtures_eq napRunner_built completed member atLeg fun _ => rfl
  have carried := (course.taken member).carriedOut_of_free atLeg fixture nofun
  obtain ⟨pause, world⟩ := carried.world_eq
  refine ⟨carried, ?_, ?_⟩
  · rw [Leg.spent, if_pos carried.ran, atLeg, TestNode.ofDefinition, fixture]
    rfl
  · rw [world, Leg.result, atLeg, TestNode.ofDefinition, fixture]
    rfl

theorem naps_course : ∃ first second, napRunner.course ⟨none, false⟩ debug = [first, second] := by
  obtain ⟨p, last, course, -⟩ := exists_course napRunner_built completed
  have distinct : (napRunner.registry.definitions.map TestDefinition.name).Nodup := by decide
  have names := (List.perm_ext_iff_of_nodup course.scheduled.names_nodup distinct).mpr fun name => by
    rw [course.scheduled.mem_names_iff, List.mem_map]
    refine exists_congr fun d => and_congr_left fun _ =>
      ⟨fun reached => reached.registered napRunner_built (registered_of_candidate _ _), fun here => ?_⟩
    exact .root (mem_candidates.mpr (.of_registered here))
  apply List.length_eq_two.mp
  simpa [napRunner_definitions] using names.length_eq

end Naps

/-- The one reply goes to the first drain, and the pause comes once. -/
theorem run_times_of_naps :
    napRunner.registry.Built ∧ ∃ outcome, (napRunner.run ⟨none, false⟩ default false).result = .ok outcome ∧
      outcome.duration = .ofMillis (20 + 7 + 100 + 7) := by
  obtain ⟨outcome, completed⟩ := exists_naps
  refine ⟨napRunner_built, outcome, completed, ?_⟩
  obtain ⟨first, second, legs⟩ := naps_course completed
  obtain ⟨carried, spent, left⟩ := naps_carriedOut completed first (by simp [legs])
  obtain ⟨-, spent', -⟩ := naps_carriedOut completed second (by simp [legs])
  obtain ⟨fetcher, _, known, chain, -, tests, timed, -, duration, -⟩ := run_times napRunner_built completed
  rw [legs] at chain tests timed duration
  cases known
  obtain ⟨start, chain⟩ := chain.uncons
  obtain ⟨start', -⟩ := chain.uncons
  have drain := (timed 0 first rfl).drain_eq
  rw [start, napRunner_start, Fetcher.drainAll_of_endAt? _ napRunner.transport (by decide) 0 .noQueuedMessages nofun
    (by decide)] at drain
  have drain' := (timed 1 second rfl).drain_eq
  rw [start', left, drain, Fetcher.drainAll_of_endAt? _ _ (by decide) 0 _ nofun rfl] at drain'
  have elapsed : first.turn.drain.elapsed = 20000000 := by
    rw [drain]
    decide
  have elapsed' : second.turn.drain.elapsed = 0 := by
    rw [drain']
    rfl
  have ran : first.turn.record.skipReason = none := carried.ran
  have pause : napRunner.settings.interTestDelay.sleepNanos = 100000000 := by decide
  rw [duration, tests, pause]
  simp only [List.map_cons, List.map_nil, List.sum_cons, List.sum_nil, List.dropLast_cons_cons, List.dropLast_singleton,
    List.countP_cons, List.countP_nil, elapsed, elapsed', spent, spent', ran]
  rfl

end Runner

end Conformance
