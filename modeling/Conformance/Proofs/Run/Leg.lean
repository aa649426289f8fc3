import Conformance.Proofs.Run.Turn

/-!
# The legs of a run

A `Leg` is a turn of a run with the world in which it began: the test was passed over, or its body was
carried out on the bench. The legs of a run are a `Chain`: each begins where the one before it ended.
What is in the store at its end is what was there at the start, and what the legs have written.
-/

namespace Conformance

/-- A turn of a run, with the world in which it began. -/
structure Leg (σ : Type) where
  start : World σ
  turn : Turn σ

namespace Leg

variable {σ : Type}

/-- The world after the drain. -/
def drained (leg : Leg σ) : World σ :=
  { leg.start with
    transport := leg.turn.drain.transport
    clock := leg.start.clock + leg.turn.drain.elapsed }

/-- The bench on which the body is carried out, if it is. -/
def bench (leg : Leg σ) : Bench σ :=
  { leg.drained with warnings := leg.turn.node.fixture.warnings, notes := #[], events := #[] }

/-- The legs of the turns when the first of them begins in the given world. -/
def ofTurns : World σ → List (Turn σ) → List (Leg σ)
  | _, [] => []
  | w, t :: rest => ⟨w, t⟩ :: ofTurns t.world rest

theorem map_turn_ofTurns (w : World σ) (turns : List (Turn σ)) : (ofTurns w turns).map turn = turns := by
  induction turns generalizing w with
  | nil => rfl
  | cons t rest ih => rw [ofTurns, List.map_cons, ih]

/-- The drain is all that the leg did. -/
structure PassedOver (leg : Leg σ) (verdict : Verdict) : Prop where
  verdict_eq : leg.turn.verdict = verdict
  world_eq : leg.turn.world = leg.drained
  notes_eq : leg.turn.notes = []

variable [Transport σ]

def result (leg : Leg σ) : TestState × Bench σ := leg.turn.node.fixture.body.run leg.bench

/-- The body was carried out on the bench, and then there may have been a pause. -/
structure CarriedOut (leg : Leg σ) : Prop where
  verdict_eq : leg.turn.verdict =
    .ran leg.result.1 leg.result.2.warnings (leg.result.2.clock - leg.bench.clock)
  world_eq : ∃ pause, leg.turn.world = { leg.result.2.toWorld with clock := leg.result.2.clock + pause }
  notes_eq : leg.turn.notes = leg.result.2.notes.toList

/-- The properties that the leg writes. -/
def written (leg : Leg σ) : List String :=
  match leg.turn.verdict with
  | .ran _ _ _ => leg.turn.node.fixture.body.written leg.bench
  | _ => []

/-- What the body logs, if it is carried out. -/
def logged (leg : Leg σ) : List Event :=
  if leg.turn.verdict.skipReason = none then leg.result.2.events.toList else []

/-- The turn was taken in the world in which the leg begins. -/
def Taken (p : RunPlan) (leg : Leg σ) : Prop :=
  ∃ n last completed, leg.turn = Turn.take p n last completed leg.start

variable {p : RunPlan} {leg : Leg σ} {property : String}

theorem CarriedOut.ran (carried : leg.CarriedOut) : leg.turn.verdict.skipReason = none := by
  rw [carried.verdict_eq, Verdict.skipReason]

theorem written_of_ran (ran : leg.turn.verdict.skipReason = none) :
    leg.written = leg.turn.node.fixture.body.written leg.bench := by
  unfold written
  split
  · rfl
  · next skipped => exact absurd ran (Verdict.skipReason_ne_none skipped)

theorem written_of_skipped (skipped : leg.turn.verdict.skipReason ≠ none) : leg.written = [] := by
  unfold written
  split
  · next verdict => exact absurd (by rw [verdict, Verdict.skipReason]) skipped
  · rfl

namespace Taken

theorem eq_take (taken : leg.Taken p) :
    ∃ last completed, leg.turn = Turn.take p leg.turn.node last completed leg.start := by
  obtain ⟨n, last, completed, same⟩ := taken
  have node : leg.turn.node = n := by rw [same, Turn.node_take]
  exact ⟨last, completed, node ▸ same⟩

theorem drained_eq (taken : leg.Taken p) : leg.drained = Turn.drained p leg.start := by
  obtain ⟨n, last, completed, same⟩ := taken
  rw [drained, same, Turn.drain_take]
  rfl

theorem drain_eq (taken : leg.Taken p) : leg.turn.drain = p.fetcher.drainAll leg.start.transport := by
  obtain ⟨n, last, completed, same⟩ := taken
  rw [same, Turn.drain_take]

theorem execute_eq (taken : leg.Taken p) :
    Turn.execute leg.turn.node (Turn.drained p leg.start) =
      (.ran leg.result.1 leg.result.2.warnings (leg.result.2.clock - leg.bench.clock), leg.result.2) := by
  rw [← taken.drained_eq]
  rfl

theorem events_eq (taken : leg.Taken p) :
    leg.turn.events = Turn.opening p leg.turn.node leg.turn.drain ++ leg.logged ++
      [leg.turn.verdict.closing p leg.turn.node.name] := by
  obtain ⟨last, completed, same⟩ := taken.eq_take
  rcases Turn.take_cases p leg.turn.node last completed leg.start with carried | ⟨verdict, skipped, passed⟩
  · have turn := same.trans carried
    rw [Turn.carryOut, taken.execute_eq] at turn
    have verdict := congrArg Turn.verdict turn
    have ran : leg.turn.verdict.skipReason = none := by
      rw [verdict]
      rfl
    rw [logged, if_pos ran, taken.drain_eq, verdict]
    exact congrArg Turn.events turn
  · have turn := same.trans passed
    have verdict := congrArg Turn.verdict turn
    have skipped : leg.turn.verdict.skipReason ≠ none := verdict ▸ skipped
    rw [logged, if_neg skipped, taken.drain_eq, verdict, List.append_nil]
    exact congrArg Turn.events turn

theorem passedOver {verdict : Verdict} {completed : Nat} (taken : leg.Taken p)
    (passed : leg.turn = Turn.passOver p leg.turn.node completed leg.start verdict) : leg.PassedOver verdict := by
  refine ⟨congrArg Turn.verdict passed, ?_, congrArg Turn.notes passed⟩
  rw [taken.drained_eq]
  exact congrArg Turn.world passed

theorem passedOver_broken (taken : leg.Taken p) (broken : leg.turn.node.fixture.state = .broken) :
    leg.PassedOver .broken := by
  obtain ⟨last, completed, same⟩ := taken.eq_take
  exact taken.passedOver (same.trans (Turn.take_broken broken))

theorem passedOver_missing (taken : leg.Taken p) (sound : leg.turn.node.fixture.state ≠ .broken)
    (missing : leg.start.store.firstMissing? leg.turn.node.requires.toList = some property) :
    leg.PassedOver (.missing property) := by
  obtain ⟨last, completed, same⟩ := taken.eq_take
  exact taken.passedOver (same.trans (Turn.take_missing sound missing))

theorem carriedOut (taken : leg.Taken p) (sound : leg.turn.node.fixture.state ≠ .broken)
    (complete : leg.start.store.firstMissing? leg.turn.node.requires.toList = none) : leg.CarriedOut := by
  obtain ⟨last, completed, same⟩ := taken.eq_take
  have carried := same.trans (Turn.take_ran sound complete)
  rw [Turn.carryOut, taken.execute_eq] at carried
  exact ⟨congrArg Turn.verdict carried, ⟨_, congrArg Turn.world carried⟩, congrArg Turn.notes carried⟩

/-- A test that is not broken is passed over for the first property that it misses. -/
theorem verdict_eq_missing_iff (taken : leg.Taken p) (sound : leg.turn.node.fixture.state ≠ .broken) :
    leg.turn.verdict = .missing property ↔
      leg.start.store.firstMissing? leg.turn.node.requires.toList = some property := by
  cases missing : leg.start.store.firstMissing? leg.turn.node.requires.toList with
  | some other =>
    rw [(taken.passedOver_missing sound missing).verdict_eq, Verdict.missing.injEq, Option.some.injEq]
  | none =>
    rw [(taken.carriedOut sound missing).verdict_eq]
    exact ⟨nofun, nofun⟩

/-- The leg skipped its test, and then the drain is all that it did, or it carried the body out. -/
theorem passedOver_or_carriedOut (taken : leg.Taken p) :
    (leg.turn.verdict.skipReason ≠ none ∧ leg.turn.world = leg.drained) ∨ leg.CarriedOut := by
  by_cases broken : leg.turn.node.fixture.state = .broken
  · have passed := taken.passedOver_broken broken
    exact .inl ⟨by rw [passed.verdict_eq]; nofun, passed.world_eq⟩
  · cases missing : leg.start.store.firstMissing? leg.turn.node.requires.toList with
    | some property =>
      have passed := taken.passedOver_missing broken missing
      exact .inl ⟨by rw [passed.verdict_eq]; nofun, passed.world_eq⟩
    | none => exact .inr (taken.carriedOut broken missing)

theorem get? (taken : leg.Taken p) (unwritten : property ∉ leg.written) :
    leg.turn.world.store.get? property = leg.start.store.get? property := by
  rcases taken.passedOver_or_carriedOut with ⟨-, world⟩ | carried
  · rw [world]
    rfl
  · obtain ⟨pause, world⟩ := carried.world_eq
    rw [written_of_ran carried.ran] at unwritten
    rw [world]
    exact Body.get?_run leg.bench unwritten

theorem contains_iff (taken : leg.Taken p) :
    leg.turn.world.store.contains property = true ↔
      leg.start.store.contains property = true ∨ property ∈ leg.written := by
  rcases taken.passedOver_or_carriedOut with ⟨skipped, world⟩ | carried
  · rw [world, written_of_skipped skipped]
    exact ⟨.inl, fun either => either.resolve_right List.not_mem_nil⟩
  · obtain ⟨pause, world⟩ := carried.world_eq
    rw [world, written_of_ran carried.ran]
    exact Body.contains_run leg.bench

end Taken

/-- The legs lead from the one world to the other: each begins where the one before it ended. -/
inductive Chain (p : RunPlan) : World σ → List (Leg σ) → World σ → Prop where
  | nil {w : World σ} : Chain p w [] w
  | cons {leg : Leg σ} {rest : List (Leg σ)} {w' : World σ} :
      leg.Taken p → Chain p leg.turn.world rest w' → Chain p leg.start (leg :: rest) w'

namespace Chain

variable {w w' : World σ} {legs early late : List (Leg σ)}

theorem takeAll (p : RunPlan) (nodes : List TestNode) (completed : Nat) (w : World σ) :
    Chain p w (ofTurns w (Turn.takeAll p nodes completed w)) (Turn.final (Turn.takeAll p nodes completed w) w) := by
  induction nodes generalizing completed w with
  | nil => exact .nil
  | cons n rest ih =>
    rw [Turn.takeAll, Turn.final_cons]
    have first : Taken p ⟨w, Turn.take p n rest.isEmpty completed w⟩ := ⟨n, _, completed, rfl⟩
    exact .cons first (ih _ _)

theorem uncons (chain : Chain p w (leg :: late) w') : leg.start = w ∧ Chain p leg.turn.world late w' := by
  cases chain with
  | cons taken rest => exact ⟨rfl, rest⟩

/-- A leg of a run: how the run came to it, and how it goes on from there. -/
theorem split (chain : Chain p w (early ++ leg :: late) w') :
    Chain p w early leg.start ∧ leg.Taken p ∧ Chain p leg.turn.world late w' := by
  induction early generalizing w with
  | nil =>
    cases chain with
    | cons taken rest => exact ⟨.nil, taken, rest⟩
  | cons first early ih =>
    cases chain with
    | cons taken rest =>
      obtain ⟨come, here, go⟩ := ih rest
      exact ⟨.cons taken come, here, go⟩

/-- Legs leave the properties that none of them writes as they were. -/
theorem get? (chain : Chain p w legs w') (unwritten : ∀ leg ∈ legs, property ∉ leg.written) :
    w'.store.get? property = w.store.get? property := by
  induction chain with
  | nil => rfl
  | cons taken _ ih =>
    rw [ih fun leg member => unwritten leg (List.mem_cons_of_mem _ member),
      taken.get? (unwritten _ List.mem_cons_self)]

theorem contains_iff (chain : Chain p w legs w') :
    w'.store.contains property = true ↔
      w.store.contains property = true ∨ ∃ leg ∈ legs, property ∈ leg.written := by
  induction chain with
  | nil => simp
  | cons taken _ ih => simp only [ih, taken.contains_iff, List.mem_cons, exists_eq_or_imp, or_assoc]

end Chain

end Leg

end Conformance
