import Conformance.Proofs.Drain.Replies

/-!
# The counters of a session

A session may be told anything at any time: a response to no GET, the end of a timer that was never
set, either of them before the start. `Session.Moves` is all that one call can do to it, `Session.Within`
what every call keeps of the counters, and `session_within` what that comes to after any calls.
-/

namespace Conformance

/-- The counts of a report are words of 32 bits. -/
structure DrainReport.Fits (r : DrainReport) : Prop where
  requestsSent : r.requestsSent < UInt32.size
  ackTimersScheduled : r.ackTimersScheduled < UInt32.size
  immediateReissues : r.immediateReissues < UInt32.size

/-- What a session can be told. -/
inductive Call where
  | start
  | response (result : GetResult)
  | ackTimerExpired

namespace Session

def call (s : Session) : Call → Transition
  | .start => s.start
  | .response result => s.onResponse result
  | .ackTimerExpired => s.onAckTimerExpired

def after (s : Session) : List Call → Session
  | [] => s
  | c :: rest => (s.call c).session.after rest

/-- The counters of the session are words of 32 bits. -/
structure Fits (s : Session) : Prop where
  counter : s.counter < UInt32.size
  outstandingAckTimers : s.outstandingAckTimers < UInt32.size
  requestsSent : s.requestsSent < UInt32.size
  ackTimersScheduled : s.ackTimersScheduled < UInt32.size
  immediateReissues : s.immediateReissues < UInt32.size

/-- What the session answers to the calls. -/
def actions (s : Session) : List Call → List Action
  | [] => []
  | c :: rest => (s.call c).action :: (s.call c).session.actions rest

/-! ### What one call can do -/

/-- All that a response can do to a session that has not ended. -/
inductive Answers (s : Session) : Action → Session → Prop where
  | ends {reason : StopReason} : s.outstandingAckTimers = 0 → reason ≠ .stalled →
      Answers s (.stop reason) { s with phase := .terminated reason }
  | defers : 0 < s.outstandingAckTimers → Answers s .wait { s with phase := .draining }
  | refuses : s.ackTimerLimit.toNat ≤ s.ackTimersScheduled →
      Answers s (.stop (.ackTimerLimit s.ackTimerLimit))
        { s with phase := .terminated (.ackTimerLimit s.ackTimerLimit) }
  | schedules {delay : Span} : s.ackTimersScheduled < s.ackTimerLimit.toNat →
      Answers s (.scheduleAckTimer delay)
        { s with
          phase := .draining
          outstandingAckTimers := s.outstandingAckTimers + 1
          ackTimersScheduled := s.ackTimersScheduled + 1
          counter := 0 }
  | exhausts : s.limit.toNat ≤ s.counter + 1 →
      Answers s (.stop (.loopLimit s.limit))
        { s with counter := s.counter + 1, phase := .terminated (.loopLimit s.limit) }
  | repeats : s.counter + 1 < s.limit.toNat →
      Answers s .fetch
        { s with
          phase := .awaitingResponse
          counter := s.counter + 1
          immediateReissues := s.immediateReissues + 1
          requestsSent := s.requestsSent + 1 }

/-- All that a call can do to a session. -/
inductive Moves (s : Session) : Action → Session → Prop where
  | stays : Moves s .wait s
  | starts : s.phase = .idle → s.limit ≠ 0 →
      Moves s .fetch { s with phase := .awaitingResponse, counter := 0, requestsSent := s.requestsSent + 1 }
  | stillborn : s.phase = .idle → s.limit = 0 →
      Moves s (.stop (.loopLimit s.limit)) { s with phase := .terminated (.loopLimit s.limit), counter := 0 }
  | answers {action : Action} {s' : Session} : s.isTerminated = false → s.Answers action s' → Moves s action s'
  | served : s.phase = .awaitingResponse →
      Moves s .wait { s with outstandingAckTimers := s.outstandingAckTimers - 1 }
  | wakes : s.isTerminated = false → s.phase ≠ .awaitingResponse →
      Moves s .fetch
        { s with
          phase := .awaitingResponse
          outstandingAckTimers := s.outstandingAckTimers - 1
          requestsSent := s.requestsSent + 1 }

variable {s s' : Session} {action : Action}

theorem isTerminated_iff : s.isTerminated = true ↔ ∃ reason, s.phase = .terminated reason := by
  unfold isTerminated
  cases s.phase <;> simp

theorem classify_ne_stalled (p : QueueParameters) (result : GetResult) :
    p.classify result ≠ .terminal .stalled := by
  intro ends
  rcases QueueParameters.terminal_cases ends with ⟨_, ⟨⟩⟩ | ⟨_, ⟨⟩⟩ | ⟨⟨⟩⟩ | ⟨⟨⟩⟩

theorem finish_answers (s : Session) {reason : StopReason} (active : reason ≠ .stalled) :
    s.Answers ({ s with phase := .draining }.finish reason).action
      ({ s with phase := .draining }.finish reason).session := by
  unfold finish
  split
  · next none => exact .ends none active
  · next some => exact .defers (Nat.pos_of_ne_zero some)

theorem onResponse_answers (result : GetResult) (underway : s.isTerminated = false) :
    s.Answers (s.onResponse result).action (s.onResponse result).session := by
  rw [onResponse_eq s result underway]
  cases kind : s.parameters.classify result with
  | terminal reason =>
    refine finish_answers s ?_
    rintro rfl
    exact classify_ne_stalled _ _ kind
  | timer delay =>
    simp only [takeAckTimer]
    split
    · next full => exact .refuses full
    · next room => exact .schedules (Nat.lt_of_not_le room)
  | other =>
    simp only [reissue]
    split
    · next full => exact .exhausts full
    · next room => exact .repeats (Nat.lt_of_not_le room)

theorem start_moves (s : Session) : s.Moves s.start.action s.start.session := by
  unfold start
  split
  · next idle =>
    dsimp only
    split
    · next none => exact .stillborn idle none
    · next some => exact .starts idle some
  · exact .stays

theorem onAckTimerExpired_moves (s : Session) :
    s.Moves s.onAckTimerExpired.action s.onAckTimerExpired.session := by
  unfold onAckTimerExpired
  split
  · exact .stays
  · next underway =>
    dsimp only
    split
    · next inFlight => exact .served inFlight
    · next waiting => exact .wakes (Bool.eq_false_iff.mpr underway) waiting

theorem call_moves (s : Session) (c : Call) : s.Moves (s.call c).action (s.call c).session := by
  cases c with
  | start => exact start_moves s
  | ackTimerExpired => exact onAckTimerExpired_moves s
  | response result =>
    cases underway : s.isTerminated with
    | true =>
      have ended : s.onResponse result = ⟨.wait, s, []⟩ := by simp [onResponse, underway]
      rw [call, ended]
      exact .stays
    | false => exact .answers underway (onResponse_answers result underway)

/-- A session that has ended stays as it is. -/
theorem call_terminated {reason : StopReason} (ended : s.phase = .terminated reason) (c : Call) :
    (s.call c).action = .wait ∧ (s.call c).session = s := by
  have terminated : s.isTerminated = true := isTerminated_iff.mpr ⟨reason, ended⟩
  cases c with
  | start => simp [call, start, ended]
  | response result => simp [call, onResponse, terminated]
  | ackTimerExpired => simp [call, onAckTimerExpired, terminated]

/-! ### What every call keeps -/

/-- The bounds on the counters of a session with the given limits. -/
structure Within (limit ackTimerLimit : UInt32) (s : Session) : Prop where
  limit_eq : s.limit = limit
  ackTimerLimit_eq : s.ackTimerLimit = ackTimerLimit
  idle : s.phase = .idle → s.counter = 0 ∧ s.outstandingAckTimers = 0 ∧ s.requestsSent = 0
  draining : s.phase = .draining → 1 ≤ s.outstandingAckTimers
  outstanding : s.outstandingAckTimers ≤ s.ackTimersScheduled
  scheduled : s.ackTimersScheduled ≤ ackTimerLimit.toNat
  requests : s.requestsSent + s.outstandingAckTimers ≤ 1 + s.ackTimersScheduled + s.immediateReissues
  counter : s.counter ≤ max limit.toNat 1
  underway : s.isTerminated = false → s.counter < max limit.toNat 1
  reissues : s.immediateReissues ≤
    (max limit.toNat 1 - 1) * s.ackTimersScheduled + min s.counter (max limit.toNat 1 - 1)

variable {limit ackTimerLimit : UInt32}

theorem new_within (parameters : QueueParameters) (limit ackTimerLimit : UInt32) :
    (new parameters limit ackTimerLimit).Within limit ackTimerLimit := by
  have positive : 0 < max limit.toNat 1 := Nat.le_max_right _ _
  exact ⟨rfl, rfl, fun _ => ⟨rfl, rfl, rfl⟩, nofun, Nat.le_refl _, Nat.zero_le _, Nat.zero_le _, Nat.zero_le _,
    fun _ => positive, Nat.zero_le _⟩

theorem answers_within (within : s.Within limit ackTimerLimit) (underway : s.isTerminated = false)
    (answers : s.Answers action s') : s'.Within limit ackTimerLimit := by
  have below := within.underway underway
  obtain ⟨rfl, rfl, -, -, outstanding, scheduled, requests, counter, -, reissues⟩ := within
  cases answers with
  | ends => exact ⟨rfl, rfl, nofun, nofun, outstanding, scheduled, requests, counter, nofun, reissues⟩
  | defers some =>
    exact ⟨rfl, rfl, nofun, fun _ => some, outstanding, scheduled, requests, counter, fun _ => below, reissues⟩
  | refuses full => exact ⟨rfl, rfl, nofun, nofun, outstanding, scheduled, requests, counter, nofun, reissues⟩
  | schedules room =>
    refine ⟨rfl, rfl, nofun, fun _ => Nat.succ_pos _, Nat.succ_le_succ outstanding, room, ?_, Nat.zero_le _,
      fun _ => Nat.lt_of_le_of_lt (Nat.zero_le _) below, ?_⟩
    · dsimp only
      omega
    · -- The timer opens a new allowance, and the old one is used up at most.
      dsimp only
      rw [Nat.mul_succ]
      omega
  | exhausts full =>
    refine ⟨rfl, rfl, nofun, nofun, outstanding, scheduled, requests, below, nofun, ?_⟩
    dsimp only
    omega
  | repeats room =>
    have still : s.counter + 1 < max s.limit.toNat 1 := Nat.lt_of_lt_of_le room (Nat.le_max_left _ _)
    refine ⟨rfl, rfl, nofun, nofun, outstanding, scheduled, ?_, below, fun _ => still, ?_⟩
    · dsimp only
      omega
    · dsimp only
      omega

theorem moves_within (within : s.Within limit ackTimerLimit) (moves : s.Moves action s') :
    s'.Within limit ackTimerLimit := by
  cases moves with
  | stays => exact within
  | answers underway answers => exact answers_within within underway answers
  | starts idle some =>
    obtain ⟨rfl, rfl, fresh, -, outstanding, scheduled, -, counter, underway, reissues⟩ := within
    obtain ⟨unused, none, unsent⟩ := fresh idle
    have positive : 0 < max s.limit.toNat 1 := Nat.le_max_right _ _
    refine ⟨rfl, rfl, nofun, nofun, outstanding, scheduled, ?_, Nat.zero_le _, fun _ => positive, unused ▸ reissues⟩
    dsimp only
    omega
  | stillborn idle none =>
    obtain ⟨rfl, rfl, fresh, -, outstanding, scheduled, requests, counter, underway, reissues⟩ := within
    have unused := (fresh idle).1
    exact ⟨rfl, rfl, nofun, nofun, outstanding, scheduled, requests, Nat.zero_le _, nofun, unused ▸ reissues⟩
  | served inFlight =>
    obtain ⟨rfl, rfl, -, -, outstanding, scheduled, requests, counter, underway, reissues⟩ := within
    refine ⟨rfl, rfl, ?_, ?_, Nat.le_trans (Nat.sub_le _ _) outstanding, scheduled, ?_, counter, underway, reissues⟩
    · intro idle
      exact absurd (inFlight.symm.trans idle) (by decide)
    · intro draining
      exact absurd (inFlight.symm.trans draining) (by decide)
    · dsimp only
      omega
  | wakes sound waiting =>
    have below := within.underway sound
    obtain ⟨rfl, rfl, fresh, pending, outstanding, scheduled, requests, counter, -, reissues⟩ := within
    refine ⟨rfl, rfl, nofun, nofun, Nat.le_trans (Nat.sub_le _ _) outstanding, scheduled, ?_, counter,
      fun _ => below, reissues⟩
    -- Before the start nothing was sent; later the GET takes the place of a timer.
    dsimp only
    cases phase : s.phase with
    | idle =>
      obtain ⟨-, none, unsent⟩ := fresh phase
      omega
    | awaitingResponse => exact absurd phase waiting
    | draining =>
      have some := pending phase
      omega
    | terminated reason =>
      have ended := isTerminated_iff.mpr ⟨reason, phase⟩
      rw [sound] at ended
      cases ended

theorem after_within (within : s.Within limit ackTimerLimit) (calls : List Call) :
    (s.after calls).Within limit ackTimerLimit := by
  induction calls generalizing s with
  | nil => exact within
  | cons c rest ih => exact ih (moves_within within (call_moves s c))

theorem requestsSent_moves (moves : s.Moves action s') :
    s'.requestsSent = s.requestsSent + if action = .fetch then 1 else 0 := by
  cases moves with
  | answers _ answers => cases answers <;> rfl
  | _ => rfl

/-- Every GET was asked for by an answer. -/
theorem requestsSent_after (s : Session) (calls : List Call) :
    (s.after calls).requestsSent = s.requestsSent + (s.actions calls).count .fetch := by
  induction calls generalizing s with
  | nil => rfl
  | cons c rest ih =>
    have first := requestsSent_moves (call_moves s c)
    rw [after, actions, ih, first, List.count_cons]
    simp only [beq_iff_eq]
    omega

namespace Within

theorem reissues_le (within : s.Within limit ackTimerLimit) :
    s.immediateReissues ≤ (max limit.toNat 1 - 1) * (s.ackTimersScheduled + 1) := by
  have bound := within.reissues
  rw [Nat.mul_succ]
  omega

theorem requests_le (within : s.Within limit ackTimerLimit) :
    s.requestsSent ≤ max limit.toNat 1 * (ackTimerLimit.toNat + 1) := by
  have positive : 1 ≤ max limit.toNat 1 := Nat.le_max_right _ _
  have timers := Nat.succ_le_succ within.scheduled
  have split := within.requests
  have again := within.reissues_le
  calc s.requestsSent ≤ (max limit.toNat 1 - 1) * (s.ackTimersScheduled + 1) + 1 * (s.ackTimersScheduled + 1) := by
        omega
    _ = max limit.toNat 1 * (s.ackTimersScheduled + 1) := by rw [← Nat.add_mul, Nat.sub_add_cancel positive]
    _ ≤ max limit.toNat 1 * (ackTimerLimit.toNat + 1) := Nat.mul_le_mul_left _ timers

/-- All counters are below any bound that the two limits together stay below. -/
theorem lt_of_limits (within : s.Within limit ackTimerLimit) {bound : Nat}
    (small : max limit.toNat 1 * (ackTimerLimit.toNat + 1) < bound) :
    s.counter < bound ∧ s.outstandingAckTimers < bound ∧ s.requestsSent < bound ∧
      s.ackTimersScheduled < bound ∧ s.immediateReissues < bound := by
  have positive : 1 ≤ max limit.toNat 1 := Nat.le_max_right _ _
  have one : max limit.toNat 1 ≤ max limit.toNat 1 * (ackTimerLimit.toNat + 1) :=
    Nat.le_mul_of_pos_right _ (Nat.succ_pos _)
  have other : ackTimerLimit.toNat + 1 ≤ max limit.toNat 1 * (ackTimerLimit.toNat + 1) :=
    Nat.le_mul_of_pos_left _ positive
  have again : s.immediateReissues ≤ max limit.toNat 1 * (ackTimerLimit.toNat + 1) :=
    Nat.le_trans within.reissues_le
      (Nat.mul_le_mul (Nat.sub_le _ _) (Nat.succ_le_succ within.scheduled))
  have counter := within.counter
  have outstanding := within.outstanding
  have scheduled := within.scheduled
  have requests := within.requests_le
  refine ⟨?_, ?_, ?_, ?_, ?_⟩ <;> omega

/-- While a timer is outstanding, a response ends the session by one of the limits alone. -/
theorem stop_reason (within : s.Within limit ackTimerLimit) (pending : 0 < s.outstandingAckTimers)
    {result : GetResult} {reason : StopReason} (stops : (s.onResponse result).action = .stop reason) :
    reason = .loopLimit limit ∨ reason = .ackTimerLimit ackTimerLimit := by
  cases underway : s.isTerminated with
  | true =>
    obtain ⟨earlier, ended⟩ := isTerminated_iff.mp underway
    have waits := (call_terminated ended (.response result)).1
    exact absurd (stops.symm.trans waits) nofun
  | false =>
    have answers := onResponse_answers result underway
    rw [stops] at answers
    generalize (s.onResponse result).session = s' at answers
    cases answers with
    | ends none _ => omega
    | refuses full => exact .inr (congrArg _ within.ackTimerLimit_eq)
    | exhausts full => exact .inl (congrArg _ within.limit_eq)

end Within

/--
Whatever calls a session has had, its timers and its GETs are within the two limits, a response does not
end it past an outstanding timer unless a limit is hit, it stays as it is once it has ended, and its counters
fit in 32 bits if the limits allow no more GETs than that.
-/
theorem session_within (parameters : QueueParameters) (limit ackTimerLimit : UInt32) (calls : List Call) :
    let s := (new parameters limit ackTimerLimit).after calls
    let most := max limit.toNat 1
    (s.outstandingAckTimers ≤ s.ackTimersScheduled ∧ s.ackTimersScheduled ≤ ackTimerLimit.toNat) ∧
      (s.phase = .draining → 1 ≤ s.outstandingAckTimers) ∧
      s.requestsSent + s.outstandingAckTimers ≤ 1 + s.ackTimersScheduled + s.immediateReissues ∧
      s.immediateReissues ≤ (most - 1) * (s.ackTimersScheduled + 1) ∧
      ((new parameters limit ackTimerLimit).actions calls).count .fetch ≤ most * (ackTimerLimit.toNat + 1) ∧
      (0 < s.outstandingAckTimers → ∀ result reason, (s.onResponse result).action = .stop reason →
        reason = .loopLimit limit ∨ reason = .ackTimerLimit ackTimerLimit) ∧
      (∀ reason, s.phase = .terminated reason → ∀ c, (s.call c).action = .wait ∧ (s.call c).session = s) ∧
      (most * (ackTimerLimit.toNat + 1) < UInt32.size →
        s.counter < UInt32.size ∧ s.outstandingAckTimers < UInt32.size ∧ s.requestsSent < UInt32.size ∧
          s.ackTimersScheduled < UInt32.size ∧ s.immediateReissues < UInt32.size) := by
  intro s most
  have within : s.Within limit ackTimerLimit := after_within (new_within parameters limit ackTimerLimit) calls
  have sent : s.requestsSent = ((new parameters limit ackTimerLimit).actions calls).count .fetch := by
    have counted := requestsSent_after (new parameters limit ackTimerLimit) calls
    rw [show (new parameters limit ackTimerLimit).requestsSent = 0 from rfl, Nat.zero_add] at counted
    exact counted
  refine ⟨⟨within.outstanding, within.scheduled⟩, within.draining, within.requests, within.reissues_le,
    sent ▸ within.requests_le, ?_, ?_, within.lt_of_limits⟩
  · intro pending result reason stops
    exact within.stop_reason pending stops
  · intro reason ended c
    exact call_terminated ended c

end Session

end Conformance
