import Conformance.Proofs.Run.Writes

/-!
# What the log tells of a run

The suite, the tests and the transport write to one log. `linesAt` keeps what the suite itself says at a
level; above the level of debugging that is one line for every mishap and one for every result, and they agree
with the records of the outcome (`log_agrees`).
-/

namespace Conformance

/-! ### The lines of the suite -/

/-- The suite itself logs the event: it is no free remark, and not about a write of a body either. -/
def Event.ofSuite : Event → Bool
  | .remark _ => false
  | event => !event.ofStore

/-- What the suite logs at the level. -/
def linesAt (level : Level) (events : List Event) : List Event :=
  events.filter fun event => event.ofSuite && event.level == level

/-- What is in the log but not from the suite: the lines of factories, of bodies and of the transport. -/
def othersIn (events : List Event) : List Event := events.filter fun event => !event.ofSuite

variable {level : Level} {events : List Event}

@[simp] theorem linesAt_nil : linesAt level [] = [] := rfl

@[simp] theorem linesAt_append (events' : List Event) :
    linesAt level (events ++ events') = linesAt level events ++ linesAt level events' := List.filter_append ..

/-- What is logged for debugging only is not among the lines above that level. -/
theorem linesAt_of_debug {event : Event} (quiet : event.level = .debug) (shown : level ≠ .debug) :
    linesAt level [event] = [] := by
  simp [linesAt, quiet, shown.symm]

theorem linesAt_flatMap {α : Type} (items : List α) (f : α → List Event) :
    linesAt level (items.flatMap f) = items.flatMap fun item => linesAt level (f item) := List.filter_flatMap

@[simp] theorem linesAt_remarks (remarks : List Remark) : linesAt level (remarks.map .remark) = [] := by
  simp [linesAt, Event.ofSuite]

@[simp] theorem othersIn_append (events' : List Event) :
    othersIn (events ++ events') = othersIn events ++ othersIn events' := List.filter_append ..

theorem othersIn_flatMap {α : Type} (items : List α) (f : α → List Event) :
    othersIn (items.flatMap f) = items.flatMap fun item => othersIn (f item) := List.filter_flatMap

@[simp] theorem othersIn_remarks (remarks : List Remark) :
    othersIn (remarks.map .remark) = remarks.map .remark := by
  simp [othersIn, Event.ofSuite]

theorem linesAt_of_others (others : othersIn events = events) : linesAt level events = [] := by
  refine List.filter_eq_nil_iff.mpr fun event member => ?_
  have apart : event.ofSuite = false := by simpa using List.filter_eq_self.mp others event member
  simp [apart]

@[simp] theorem Store.othersIn_writeEvents (s : Store) (property : String) :
    othersIn (s.writeEvents property) = s.writeEvents property := by
  unfold writeEvents
  split <;> split <;> rfl

/-- Nothing that a body logs is of the suite. -/
theorem Body.othersIn_run {σ : Type} [Transport σ] (body : Body) (b : Bench σ)
    (others : othersIn b.events.toList = b.events.toList) :
    othersIn (body.run b).2.events.toList = (body.run b).2.events.toList := by
  -- Only three steps log: an answer with its remarks, a write that the store did not expect, and a free remark.
  induction body generalizing b with
  | done => exact others
  | get request next ih =>
    refine ih _ _ ?_
    simp [others]
  | write property value next ih =>
    refine ih _ ?_
    simp [others]
  | remark line next ih =>
    refine ih _ ?_
    rw [Array.toList_push, othersIn_append, others]
    rfl
  | clock _ ih | read _ _ ih | samples _ _ ih | lookUp _ _ ih => exact ih _ _ others
  | keep _ _ _ ih | sleep _ _ ih | record _ _ _ ih | warn _ _ ih | note _ _ ih => exact ih _ others

/-! ### What a drain logs -/

/-- The reason to stop a drain that the error stands for, if there is one. -/
def Event.stopReason? : Event → Option StopReason
  | .loopLimitHit limit => some (.loopLimit limit)
  | .ackTimerLimitHit limit => some (.ackTimerLimit limit)
  | .transportFailed error => some (.transportError error.message)
  | .responseFailed code => some (.protocolError code)
  | .nothingPending => some .stalled
  | _ => none

/--
The errors that are logged for a drain with this reason to stop, where `last` came of its last request: one that
stands for the reason, or else none but that an empty list of status messages was not the last message.
-/
structure StopReason.ToldBy (reason : StopReason) (last : GetResult) (errors : List Event) : Prop where
  incomplete : reason.isDrained = false → ∃ error, errors = [error] ∧ error.stopReason? = some reason
  drained : reason.isDrained = true → ∃ response, last = .ok response ∧
    errors = if reason = .emptyStatusMessages ∧ 0 < response.queuedMessages then
      [.emptyButQueued response.queuedMessages] else []

namespace StopReason.ToldBy

variable {reason : StopReason} {last : GetResult} {errors : List Event} {r : Response}

theorem of_incomplete {error : Event} (stops : error.stopReason? = some reason)
    (incomplete : reason.isDrained = false) : reason.ToldBy last [error] where
  incomplete _ := ⟨error, rfl, stops⟩
  drained complete := absurd (incomplete.symm.trans complete) Bool.false_ne_true

theorem of_drained (drained : reason.isDrained = true)
    (rest : errors = if reason = .emptyStatusMessages ∧ 0 < r.queuedMessages then
      [.emptyButQueued r.queuedMessages] else []) : reason.ToldBy (.ok r) errors where
  incomplete incomplete := absurd (incomplete.symm.trans drained) Bool.false_ne_true
  drained _ := ⟨r, rfl, rest⟩

end StopReason.ToldBy

theorem GetResult.complaints_of_failed {r : Response} (failed : r.code ≠ .completedOk) :
    complaints (.ok r) = [.responseFailed r.code] := if_pos failed

theorem GetResult.complaints_of_completed {r : Response} (completed : ¬ r.code ≠ .completedOk) :
    complaints (.ok r) = if r.type = .ack ∧ 0 < r.queuedMessages then [.emptyButQueued r.queuedMessages] else [] :=
  if_neg completed

namespace QueueParameters

variable {p : QueueParameters} {result : GetResult} {r : Response} {reason : StopReason}

theorem classify_of_failed (failed : r.code ≠ .completedOk) :
    p.classify (.ok r) = .terminal (.protocolError r.code) := if_pos failed

/-- A completed exchange ends a drain in two ways, and only an acknowledgement does in the second. -/
theorem terminal_of_completed (completed : ¬ r.code ≠ .completedOk) (ends : p.classify (.ok r) = .terminal reason) :
    reason = .noQueuedMessages ∧ r.type ≠ .ack ∨ reason = .emptyStatusMessages ∧ r.type = .ack := by
  simp only [classify, if_neg completed] at ends
  split at ends
  · cases ends
  · next refused =>
    split at ends
    · cases ends
      exact .inl ⟨rfl, by simp [refused]⟩
    · cases ends
  · next acknowledged =>
    split at ends
    · split at ends
      · cases ends
        exact .inr ⟨rfl, acknowledged⟩
      · cases ends
    · cases ends

theorem toldBy_complaints (ends : p.classify result = .terminal reason) : reason.ToldBy result result.complaints := by
  cases result with
  | error error =>
    cases ends
    exact .of_incomplete rfl rfl
  | ok r =>
    by_cases failed : r.code ≠ .completedOk
    · rw [classify_of_failed failed] at ends
      cases ends
      rw [GetResult.complaints_of_failed failed]
      exact .of_incomplete rfl rfl
    · rcases terminal_of_completed failed ends with ⟨rfl, refused⟩ | ⟨rfl, acknowledged⟩
      · exact .of_drained rfl (by simp [GetResult.complaints_of_completed failed, refused])
      · exact .of_drained rfl (by simp [GetResult.complaints_of_completed failed, acknowledged])

end QueueParameters

theorem GetResult.linesAt_complaints (result : GetResult) :
    linesAt level result.complaints = if level = .error then result.complaints else [] := by
  unfold complaints
  split
  · cases level <;> rfl
  · split
    · cases level <;> rfl
    · split <;> cases level <;> rfl

theorem GetResult.othersIn_complaints (result : GetResult) : othersIn result.complaints = [] := by
  unfold complaints
  split
  · rfl
  · split
    · rfl
    · split <;> rfl

theorem Scan.othersIn_eventsAt (s : Scan) (i : Nat) :
    othersIn (s.eventsAt i) = (s.receptions i).remarks.map .remark := by
  rw [eventsAt, othersIn_append, othersIn_remarks]
  split <;> exact List.append_nil _

theorem Scan.othersIn_closing (s : Scan) (k : Nat) :
    othersIn (s.closing k) = (s.receptions k).remarks.map .remark := by
  rw [closing, othersIn_append, othersIn_remarks]
  split
  · rw [GetResult.othersIn_complaints, List.append_nil]
  · exact List.append_nil _
  · exact List.append_nil _

theorem Scan.linesAt_eventsAt (s : Scan) (i : Nat) (shown : level ≠ .debug) : linesAt level (s.eventsAt i) = [] := by
  rw [eventsAt, linesAt_append, linesAt_remarks, List.nil_append]
  split
  · exact linesAt_of_debug rfl shown
  · rfl

/-- A drain logs its errors with the last reply, and nothing else above the level of debugging. -/
theorem Scan.exists_lines {s : Scan} {k : Nat} {reason : StopReason} (ends : s.Ends k reason)
    (allowed : 0 < s.limit.toNat) :
    ∃ errors, reason.ToldBy (s.receptions k).result errors ∧
      ∀ level, linesAt level (s.closing k) = if level = .error then errors else [] := by
  cases ends with
  | terminal kind =>
    refine ⟨_, QueueParameters.toldBy_complaints kind, fun level => ?_⟩
    simp only [closing, kind, linesAt_append, linesAt_remarks, List.nil_append, GetResult.linesAt_complaints]
  | ackTimerLimit kind full =>
    refine ⟨[.ackTimerLimitHit s.ackTimerLimit], .of_incomplete rfl rfl, fun level => ?_⟩
    simp only [closing, kind, linesAt_append, linesAt_remarks, List.nil_append]
    cases level <;> rfl
  | loopLimit long all =>
    have kind := all k (Nat.le_refl k) (by omega)
    refine ⟨[.loopLimitHit s.limit], .of_incomplete rfl rfl, fun level => ?_⟩
    simp only [closing, kind, linesAt_append, linesAt_remarks, List.nil_append]
    cases level <;> rfl

namespace Fetcher

variable {σ : Type} [Transport σ]

/-- A drain logs nothing above the level of debugging but the errors that its reason to stop stands for. -/
theorem exists_lines (fetcher : Fetcher) (t : σ) :
    ∃ errors, (fetcher.drainAll t).report.reason.ToldBy
        (Transport.receptionAt t fetcher.request ((fetcher.drainAll t).report.requestsSent - 1)).result errors ∧
      ∀ level ≠ .debug,
        linesAt level (fetcher.drainAll t).events.toList = if level = .error then errors else [] := by
  rcases fetcher.limit_cases with nothing | allowed
  · rw [drainAll_of_limit_zero t nothing]
    refine ⟨[.loopLimitHit 0], .of_incomplete rfl rfl, fun level shown => ?_⟩
    cases level with
    | debug => exact absurd rfl shown
    | error | warn | info => rfl
  · obtain ⟨k, reason, ends, -, scanned⟩ := exists_run fetcher t allowed
    obtain ⟨errors, told, lines⟩ := Scan.exists_lines ends allowed
    rw [scanned]
    refine ⟨errors, told, fun level shown => ?_⟩
    have before : linesAt level ((List.range k).flatMap (fetcher.scan t).eventsAt) = [] := by
      rw [linesAt_flatMap, List.flatMap_eq_nil_iff]
      exact fun i _ => Scan.linesAt_eventsAt _ i shown
    have finished : linesAt level [.drainFinished ((fetcher.scan t).report k reason)] = [] :=
      linesAt_of_debug rfl shown
    simp only [Scan.run, List.toList_toArray, linesAt_append, before, finished, lines level, List.nil_append,
      List.append_nil]

/-- What the transport remarks on the first `sent` requests. -/
def remarks (fetcher : Fetcher) (t : σ) (sent : Nat) : List Event :=
  (List.range sent).flatMap fun i => (Transport.receptionAt t fetcher.request i).remarks.map .remark

theorem othersIn_drainAll (fetcher : Fetcher) (t : σ) :
    othersIn (fetcher.drainAll t).events.toList = fetcher.remarks t (fetcher.drainAll t).report.requestsSent := by
  rcases fetcher.limit_cases with nothing | allowed
  · rw [drainAll_of_limit_zero t nothing]
    rfl
  · obtain ⟨k, reason, -, -, scanned⟩ := exists_run fetcher t allowed
    have finished : othersIn [.drainFinished ((fetcher.scan t).report k reason)] = [] := rfl
    rw [scanned]
    simp only [Scan.run, List.toList_toArray, othersIn_append, finished, Scan.othersIn_closing, othersIn_flatMap,
      Scan.othersIn_eventsAt, List.append_nil]
    simp only [remarks, Scan.report, List.range_succ, List.flatMap_append, List.flatMap_singleton]
    rfl

end Fetcher

/-! ### What a leg logs -/

namespace Leg

variable {σ : Type} [Transport σ] {p : RunPlan} {leg : Leg σ}

theorem othersIn_logged (leg : Leg σ) : othersIn leg.logged = leg.logged := by
  unfold logged
  split
  · exact Body.othersIn_run _ _ rfl
  · rfl

theorem linesAt_logged (leg : Leg σ) : linesAt level leg.logged = [] := linesAt_of_others leg.othersIn_logged

namespace Taken

theorem linesAt_events (taken : leg.Taken p) (level : Level) (shown : level ≠ .debug) :
    linesAt level leg.turn.events =
      linesAt level leg.turn.drain.events.toList ++
        (if leg.turn.record.drainIncomplete then
          linesAt level [.notDrained leg.turn.record.name leg.turn.drain.report.reason] else []) ++
        linesAt level [leg.turn.verdict.closing p leg.turn.record.name] := by
  have started : linesAt level [.testStarted p.stampsStart leg.turn.node.name leg.turn.node.definition.description] =
      [] := linesAt_of_debug rfl shown
  rw [taken.events_eq]
  simp only [Turn.opening, linesAt_append, started, linesAt_logged, List.append_nil]
  by_cases drained : leg.turn.drain.report.reason.isDrained = true <;>
    simp [TestRecord.drainIncomplete, Turn.record, drained]

theorem linesAt_drain (taken : leg.Taken p) (level : Level) (shown : level ≠ .debug) (other : level ≠ .error) :
    linesAt level leg.turn.drain.events.toList = [] := by
  rw [taken.drain_eq]
  obtain ⟨errors, -, lines⟩ := p.fetcher.exists_lines leg.start.transport
  rw [lines level shown, if_neg other]

theorem warnings_eq (taken : leg.Taken p) :
    linesAt .warn leg.turn.events =
      if leg.turn.record.drainIncomplete then
        [.notDrained leg.turn.record.name leg.turn.drain.report.reason] else [] := by
  have closing : linesAt .warn [leg.turn.verdict.closing p leg.turn.record.name] = [] := by
    cases leg.turn.verdict <;> rfl
  rw [taken.linesAt_events .warn nofun, taken.linesAt_drain .warn nofun nofun, closing, List.nil_append,
    List.append_nil]
  rfl

theorem results_eq (taken : leg.Taken p) :
    linesAt .info leg.turn.events =
      if leg.turn.record.wasSkipped then [] else
        [.testFinished p.stampsEnd leg.turn.record.name leg.turn.record.state] := by
  rw [taken.linesAt_events .info nofun, taken.linesAt_drain .info nofun nofun, List.nil_append]
  have notDrained : linesAt .info [.notDrained leg.turn.record.name leg.turn.drain.report.reason] = [] := rfl
  rw [notDrained, ite_self, List.nil_append]
  unfold TestRecord.wasSkipped Turn.record
  dsimp only
  cases leg.turn.verdict <;> rfl

theorem errors_toldBy (taken : leg.Taken p) :
    leg.turn.drain.report.reason.ToldBy
      (Transport.receptionAt leg.start.transport p.fetcher.request (leg.turn.drain.report.requestsSent - 1)).result
      (linesAt .error leg.turn.events) := by
  have notDrained : linesAt .error [.notDrained leg.turn.record.name leg.turn.drain.report.reason] = [] := rfl
  have closing : linesAt .error [leg.turn.verdict.closing p leg.turn.record.name] = [] := by
    cases leg.turn.verdict <;> rfl
  obtain ⟨errors, told, lines⟩ := p.fetcher.exists_lines leg.start.transport
  rw [taken.linesAt_events .error nofun, notDrained, closing, ite_self, List.append_nil, List.append_nil,
    taken.drain_eq, lines .error nofun, if_pos rfl]
  exact told

theorem othersIn_events (taken : leg.Taken p) :
    othersIn leg.turn.events =
      p.fetcher.remarks leg.start.transport leg.turn.drain.report.requestsSent ++ leg.logged := by
  have opening : othersIn (Turn.opening p leg.turn.node leg.turn.drain) = othersIn leg.turn.drain.events.toList := by
    have started : othersIn [.testStarted p.stampsStart leg.turn.node.name leg.turn.node.definition.description] =
        [] := rfl
    unfold Turn.opening
    rw [othersIn_append, othersIn_append, started, List.append_nil]
    split <;> exact List.append_nil _
  have closing : othersIn [leg.turn.verdict.closing p leg.turn.node.name] = [] := by
    cases leg.turn.verdict <;> rfl
  rw [taken.events_eq, othersIn_append, othersIn_append, opening, closing, othersIn_logged, List.append_nil,
    taken.drain_eq, Fetcher.othersIn_drainAll]

end Taken

omit [Transport σ] in
/-- What the legs give one by one can be read off their records. -/
theorem flatMap_eq_filterMap {legs : List (Leg σ)} {logged : Leg σ → List Event} {line? : TestRecord → Option Event}
    (each : ∀ leg ∈ legs, logged leg = (line? leg.turn.record).toList) :
    legs.flatMap logged = (legs.map fun leg => leg.turn.record).filterMap line? := by
  rw [List.filterMap_map, List.filterMap_eq_flatMap_toList]
  exact List.flatMap_congr each

end Leg

/-! ### The log of a run -/

theorem RunSummary.total_eq (states : List TestState) :
    (ofStates states).total =
      (ofStates states).passed + (ofStates states).failed + (ofStates states).broken + (ofStates states).notRun := by
  unfold ofStates
  induction states with
  | nil => rfl
  | cons state rest ih =>
    simp only [List.length_cons, List.count_cons] at ih ⊢
    cases state <;> simp <;> omega

/-- The test of a line that warns of a drain. -/
def Event.undrained? : Event → Option String
  | .notDrained test _ => some test
  | _ => none

namespace Runner

variable {σ : Type} [Transport σ] {r : Runner σ} {options : RunOptions} {startedAt : Timestamp} {debug : Bool}
  {outcome : RunOutcome}

theorem unknownTests_eq (built : r.registry.Built)
    (completed : (r.run options startedAt debug).result = .ok outcome) :
    outcome.unknownTests = r.unknownTests options := by
  obtain ⟨_, _, -, -, same⟩ := run_eq_ok built completed
  rw [same]
  rfl

/-- The factories log nothing of the suite, and the size of the graph is for debugging. -/
theorem linesAt_construct (r : Runner σ) (options : RunOptions) (shown : level ≠ .debug) :
    linesAt level (r.construct options).events = [] := by
  obtain ⟨remarks, logged⟩ := r.exists_remarks options
  rw [logged, linesAt_append, linesAt_remarks, List.nil_append]
  unfold DependencyGraph.report
  split
  · rfl
  · exact linesAt_of_debug rfl shown

theorem othersIn_report (result : Except SuiteError DependencyGraph) :
    othersIn (DependencyGraph.report result) = [] := by
  cases result <;> rfl

section Parts

variable (built : r.registry.Built) (completed : (r.run options startedAt debug).result = .ok outcome)

include built completed

/-- The parts of a log of which the line on the order is left out. -/
theorem filter_events (keep : Event → Bool) (order : ∀ tests, keep (.orderDecided tests) = false) :
    (r.run options startedAt debug).events.filter keep =
      (outcome.unknownTests.map .unknownTest).filter keep ++ (r.construct options).events.filter keep ++
        (r.course options debug).flatMap (fun leg => leg.turn.events.filter keep) ++
        [.runComplete outcome.summary].filter keep := by
  obtain ⟨fetcher, last, -, -, -, -, -, log⟩ := exists_last built completed
  rw [log, unknownTests_eq built completed, List.filter_append, List.filter_append, List.filter_append,
    List.filter_cons_of_neg (by simp [order]), List.filter_flatMap]
  simp only [List.append_assoc]

theorem linesAt_run (level : Level) (shown : level ≠ .debug) :
    linesAt level (r.run options startedAt debug).events =
      linesAt level (outcome.unknownTests.map .unknownTest) ++
        (r.course options debug).flatMap (fun leg => linesAt level leg.turn.events) ++
        linesAt level [.runComplete outcome.summary] := by
  have apart : (Level.debug == level) = false := beq_eq_false_iff_ne.mpr shown.symm
  have construction : linesAt level (r.construct options).events = [] := r.linesAt_construct options shown
  refine (filter_events built completed _ fun _ => apart).trans ?_
  rw [linesAt] at construction
  rw [construction, List.append_nil]
  rfl

theorem warnings_run :
    linesAt .warn (r.run options startedAt debug).events =
      (outcome.tests.filter TestRecord.drainIncomplete).filterMap fun record =>
        record.drain.map fun report => .notDrained record.name report.reason := by
  obtain ⟨fetcher, last, -, course, tests, -⟩ := exists_last built completed
  have unknown : linesAt .warn (outcome.unknownTests.map .unknownTest) = [] :=
    List.filter_eq_nil_iff.mpr (List.forall_mem_map.mpr fun _ _ => Bool.false_ne_true)
  have complete : linesAt .warn [.runComplete outcome.summary] = [] := rfl
  rw [linesAt_run built completed .warn nofun, unknown, complete, List.nil_append, List.append_nil, tests,
    List.filterMap_filter]
  refine Leg.flatMap_eq_filterMap fun leg member => ?_
  rw [(course.taken member).warnings_eq]
  split <;> rfl

theorem results_run :
    linesAt .info (r.run options startedAt debug).events =
      ((outcome.tests.filter (!·.wasSkipped)).map fun record =>
        .testFinished (r.settings.timestamp && !debug) record.name record.state) ++
        [.runComplete outcome.summary] := by
  obtain ⟨fetcher, last, -, course, tests, -⟩ := exists_last built completed
  have unknown : linesAt .info (outcome.unknownTests.map .unknownTest) = [] :=
    List.filter_eq_nil_iff.mpr (List.forall_mem_map.mpr fun _ _ => Bool.false_ne_true)
  have complete : linesAt .info [.runComplete outcome.summary] = [.runComplete outcome.summary] := rfl
  rw [linesAt_run built completed .info nofun, unknown, complete, List.nil_append, tests, ← List.filterMap_eq_map,
    List.filterMap_filter]
  refine congrArg (· ++ _) (Leg.flatMap_eq_filterMap fun leg member => ?_)
  rw [(course.taken member).results_eq]
  cases leg.turn.record.wasSkipped <;> rfl

theorem errors_run :
    linesAt .error (r.run options startedAt debug).events =
      outcome.unknownTests.map .unknownTest ++
        (r.course options debug).flatMap fun leg => linesAt .error leg.turn.events := by
  have unknown : linesAt .error (outcome.unknownTests.map .unknownTest) = outcome.unknownTests.map .unknownTest :=
    List.filter_eq_self.mpr (List.forall_mem_map.mpr fun _ _ => rfl)
  have complete : linesAt .error [.runComplete outcome.summary] = [] := rfl
  rw [linesAt_run built completed .error nofun, unknown, complete, List.append_nil]

theorem othersIn_run {fetcher : Fetcher} (known : r.fetcher = .ok fetcher) :
    othersIn (r.run options startedAt debug).events =
      othersIn (r.construct options).events ++ (r.course options debug).flatMap fun leg =>
        fetcher.remarks leg.start.transport leg.turn.drain.report.requestsSent ++ leg.logged := by
  obtain ⟨fetcher', last, known', course, -⟩ := exists_last built completed
  cases known.symm.trans known'
  have unknown : (outcome.unknownTests.map Event.unknownTest).filter (!·.ofSuite) = [] :=
    List.filter_eq_nil_iff.mpr (List.forall_mem_map.mpr fun _ _ => Bool.false_ne_true)
  have complete : [Event.runComplete outcome.summary].filter (!·.ofSuite) = [] := rfl
  refine (filter_events built completed (!·.ofSuite) fun _ => rfl).trans ?_
  rw [unknown, complete, List.nil_append, List.append_nil]
  exact congrArg _ (List.flatMap_congr fun leg member => (course.taken member).othersIn_events)

end Parts

theorem undrained?_notDrained {records : List TestRecord}
    (incomplete : ∀ record ∈ records, record.drainIncomplete = true) :
    (records.filterMap fun record => record.drain.map fun report => Event.notDrained record.name report.reason).map
        Event.undrained? = (records.map TestRecord.name).map some := by
  induction records with
  | nil => rfl
  | cons record rest ih =>
    obtain ⟨here, further⟩ := List.forall_mem_cons.mp incomplete
    obtain ⟨report, drained⟩ : ∃ report, record.drain = some report := by
      unfold TestRecord.drainIncomplete at here
      split at here
      · exact ⟨_, ‹_›⟩
      · cases here
    simp only [List.filterMap_cons, drained, Option.map_some, List.map_cons, ih further]
    rfl

/--
What the suite logs above the level of debugging agrees with the outcome. It warns of just the tests that come
after a drain that was not completed, with the reasons. It tells the result of each test that was not skipped, and
last the counts. Its errors are the unknown tests, and then turn by turn those that the reason of the drain stands
for (`StopReason.ToldBy`). All else in the log is what the factories remark, and then, turn by turn, what the
transport remarks during the drain and what the body logs.
-/
theorem log_agrees (built : r.registry.Built) (completed : (r.run options startedAt debug).result = .ok outcome) :
    let log := (r.run options startedAt debug).events
    linesAt .warn log = (outcome.tests.filter TestRecord.drainIncomplete).filterMap (fun record =>
        record.drain.map fun report => .notDrained record.name report.reason) ∧
      (linesAt .warn log).map Event.undrained? = outcome.undrained.map some ∧
      linesAt .info log = ((outcome.tests.filter (!·.wasSkipped)).map fun record =>
        .testFinished (r.settings.timestamp && !debug) record.name record.state) ++ [.runComplete outcome.summary] ∧
      outcome.summary.total = outcome.tests.length ∧
      outcome.summary.total = outcome.summary.passed + outcome.summary.failed + outcome.summary.broken +
        outcome.summary.notRun ∧
      ∃ fetcher last, ∃ remarks : List Remark, r.fetcher = .ok fetcher ∧
        Leg.Chain (r.plan fetcher debug outcome.tests.length) (r.start options) (r.course options debug) last ∧
        outcome.tests = (r.course options debug).map (fun leg => leg.turn.record) ∧
        linesAt .error log = outcome.unknownTests.map .unknownTest ++
          (r.course options debug).flatMap (fun leg => linesAt .error leg.turn.events) ∧
        (∀ leg ∈ r.course options debug, ∃ report, leg.turn.record.drain = some report ∧
          report.reason.ToldBy
            (Transport.receptionAt leg.start.transport fetcher.request (report.requestsSent - 1)).result
            (linesAt .error leg.turn.events)) ∧
        (r.construct options).events =
          remarks.map .remark ++ DependencyGraph.report (r.construct options).result ∧
        othersIn log = remarks.map .remark ++ (r.course options debug).flatMap fun leg =>
          fetcher.remarks leg.start.transport leg.turn.drain.report.requestsSent ++ leg.logged := by
  intro log
  obtain ⟨fetcher, last, known, course, tests, -⟩ := exists_last built completed
  obtain ⟨remarks, logged⟩ := r.exists_remarks options
  have warnings := warnings_run built completed
  refine ⟨warnings, ?_, results_run built completed, ?_, RunSummary.total_eq _, fetcher, last, remarks, known,
    course.chain, tests, errors_run built completed,
    fun leg member => ⟨_, rfl, (course.taken member).errors_toldBy⟩, logged, ?_⟩
  · rw [warnings]
    exact undrained?_notDrained fun record member => (List.mem_filter.mp member).2
  · rw [RunOutcome.summary, RunSummary.ofStates, List.length_map]
  · refine (othersIn_run built completed known).trans ?_
    rw [logged, othersIn_append, othersIn_remarks, othersIn_report, List.append_nil]

/-- One of the tests that are asked for is unknown, and nothing answers the drains before the others. -/
theorem log_agrees_of_required_reset :
    let runner : Runner Script :=
      { new .default .standard (.ofReplies []) with
        registry := (Registry.empty.registerAll [afterReset, resetTest] 0).registry }
    let options : RunOptions := ⟨some (.ofList ["AfterReset", "Missing"]), true⟩
    let log := (runner.run options default false).events
    runner.registry.Built ∧ ∃ outcome, (runner.run options default false).result = .ok outcome ∧
      .unknownTest "Missing" ∈ linesAt .error log ∧
      (linesAt .warn log).map Event.undrained? = outcome.undrained.map some ∧
      (linesAt .info log).getLast? = some (.runComplete outcome.summary) := by
  intro runner options log
  have built : runner.registry.Built := .registerAll .empty _ _
  have definitions : runner.registry.definitions = [afterReset, resetTest] := rfl
  have known : resetTest ∈ runner.registry.definitions := List.mem_cons_of_mem _ List.mem_cons_self
  have either : ∀ d ∈ runner.registry.definitions, d = resetTest ∨ d = afterReset :=
    fun d member => (List.mem_pair.mp (definitions ▸ member)).symm
  obtain ⟨outcome, completed⟩ : ∃ outcome, (runner.run options default false).result = .ok outcome :=
    exists_outcome_of_pair built rfl known either List.mem_cons_self nofun nofun fun _ => rfl
  obtain ⟨-, undrained, results, -, -, _, _, _, -, -, -, errors, -⟩ := log_agrees built completed
  have unknown : "Missing" ∈ outcome.unknownTests := by
    rw [unknownTests_eq built completed]
    refine mem_unknownTests.mpr ⟨⟨_, rfl, by decide⟩, ?_⟩
    rw [definitions]
    decide
  refine ⟨built, outcome, completed, ?_, undrained, ?_⟩
  · exact errors ▸ List.mem_append_left _ (List.mem_map_of_mem unknown)
  · exact results ▸ List.getLast?_concat

end Runner

end Conformance
