import Conformance.Proofs.Drain.Counters

/-!
# Completions in any order

The loop of a drain waits until one of its pending completions comes. `Stage.Step` lets any of them come
next, a response with any result, and `Stage.Reached` counts how many have come. There is never more than
one to wait for (`reached_sound`), so the order makes no difference, and every drain over a transport is
one of these courses (`reached_drainAll`). So its counters fit in 32 bits wherever its limits do together
(`fits_drainAll`).
-/

namespace Conformance

/-- Where the loop of a drain stands: it waits for what is pending, or it has ended. -/
inductive Stage where
  | awaiting (s : Session) (pending : List Pending)
  | ended (report : DrainReport)

namespace Stage

/-- Carries out an action while the given completions are still to come. -/
def carry (action : Action) (s : Session) (pending : List Pending) : Stage :=
  match action with
  | .stop reason => .ended (s.report reason)
  | action => .awaiting s (pending ++ action.pending)

def settle (t : Transition) (pending : List Pending) : Stage := carry t.action t.session pending

inductive Step : Stage → Stage → Prop where
  | response (early late : List Pending) (result : GetResult) {s : Session} :
      Step (.awaiting s (early ++ .response :: late)) (settle (s.onResponse result) (early ++ late))
  | ackTimer (early late : List Pending) {delay : Span} {s : Session} :
      Step (.awaiting s (early ++ .ackTimer delay :: late)) (settle s.onAckTimerExpired (early ++ late))
  | stalled {s : Session} : Step (.awaiting s []) (settle (s.abort .stalled) [])

/-- The drain can have come to the stage after so many completions. -/
inductive Reached (parameters : QueueParameters) (limit ackTimerLimit : UInt32) : Nat → Stage → Prop where
  | start : Reached parameters limit ackTimerLimit 0
      (settle (Session.new parameters limit ackTimerLimit).start [])
  | step {n : Nat} {a b : Stage} : Reached parameters limit ackTimerLimit n a → Step a b →
      Reached parameters limit ackTimerLimit (n + 1) b

/-! ### One thing is pending -/

/-- The session waits for a response alone, or for the end of its one timer. -/
inductive Expects (s : Session) : List Pending → Prop where
  | response : s.phase = .awaitingResponse → s.outstandingAckTimers = 0 → Expects s [.response]
  | ackTimer {delay : Span} : s.phase = .draining → s.outstandingAckTimers = 1 → Expects s [.ackTimer delay]

/-- The invariant of the loop while it waits: each completion so far was that of a GET or of a timer. -/
structure Awaits (limit ackTimerLimit : UInt32) (n : Nat) (s : Session) (pending : List Pending) : Prop where
  within : s.Within limit ackTimerLimit
  expects : Expects s pending
  allowed : 0 < limit.toNat
  balance : s.requestsSent + s.outstandingAckTimers = 1 + s.ackTimersScheduled + s.immediateReissues
  completed : n + 1 = s.requestsSent + s.ackTimersScheduled

/-- What the invariant leaves of a drain that has ended. -/
structure Ends (limit ackTimerLimit : UInt32) (n : Nat) (report : DrainReport) : Prop where
  active : report.reason ≠ .stalled
  balance : 0 < limit.toNat → report.requestsSent = 1 + report.ackTimersScheduled + report.immediateReissues
  requests : report.requestsSent ≤ limit.toNat * (ackTimerLimit.toNat + 1)
  reissues : report.immediateReissues ≤ report.requestsSent
  timers : report.ackTimersScheduled ≤ ackTimerLimit.toNat
  completed : n = report.requestsSent + report.ackTimersScheduled

def Sound (limit ackTimerLimit : UInt32) (n : Nat) : Stage → Prop
  | .awaiting s pending => Awaits limit ackTimerLimit n s pending
  | .ended report => Ends limit ackTimerLimit n report

variable {parameters : QueueParameters} {limit ackTimerLimit : UInt32} {n : Nat} {s : Session}
  {pending : List Pending} {a b : Stage}

theorem Awaits.requests_le (awaits : Awaits limit ackTimerLimit n s pending) :
    s.requestsSent ≤ limit.toNat * (ackTimerLimit.toNat + 1) := by
  have bound := awaits.within.requests_le
  rwa [Nat.max_eq_left awaits.allowed] at bound

theorem start_new (parameters : QueueParameters) (limit ackTimerLimit : UInt32) :
    (Session.new parameters limit ackTimerLimit).start =
      if limit = 0 then (Session.new parameters limit ackTimerLimit).hitLoopLimit
      else (Session.new parameters limit ackTimerLimit).fetch := if_pos rfl

theorem start_sound (parameters : QueueParameters) (limit ackTimerLimit : UInt32) :
    Sound limit ackTimerLimit 0 (settle (Session.new parameters limit ackTimerLimit).start []) := by
  have within := Session.moves_within (Session.new_within parameters limit ackTimerLimit)
    (Session.start_moves _)
  rw [start_new] at within ⊢
  by_cases none : limit = 0
  · subst none
    exact ⟨nofun, fun positive => absurd positive (by decide), Nat.zero_le _, Nat.zero_le _, Nat.zero_le _, rfl⟩
  · rw [if_neg none] at within ⊢
    have allowed : 0 < limit.toNat := Nat.pos_of_ne_zero fun zero => none (UInt32.toNat_inj.mp zero)
    exact ⟨within, .response rfl rfl, allowed, rfl, rfl⟩

theorem response_sound (awaits : Awaits limit ackTimerLimit n s [.response]) (result : GetResult) :
    Sound limit ackTimerLimit (n + 1) (settle (s.onResponse result) []) := by
  have requests := awaits.requests_le
  obtain ⟨within, expects, allowed, balance, completed⟩ := awaits
  obtain ⟨awaiting, none⟩ : s.phase = .awaitingResponse ∧ s.outstandingAckTimers = 0 := by
    cases expects with
    | response awaiting none => exact ⟨awaiting, none⟩
  have underway : s.isTerminated = false := by simp [Session.isTerminated, awaiting]
  have answers := Session.onResponse_answers result underway
  have scheduled := within.scheduled
  rw [none, Nat.add_zero] at balance
  have reissues : s.immediateReissues ≤ s.requestsSent := by omega
  rw [settle]
  generalize (s.onResponse result).action = action at answers
  generalize (s.onResponse result).session = s' at answers
  have within' := Session.answers_within within underway answers
  cases answers with
  | ends _ active => exact ⟨active, fun _ => balance, requests, reissues, scheduled, completed⟩
  | defers some => omega
  | refuses full => exact ⟨nofun, fun _ => balance, requests, reissues, scheduled, completed⟩
  | exhausts full => exact ⟨nofun, fun _ => balance, requests, reissues, scheduled, completed⟩
  | schedules room =>
    refine ⟨within', .ackTimer rfl (congrArg Nat.succ none), allowed, ?_, ?_⟩
    · dsimp only
      omega
    · dsimp only
      omega
  | repeats room =>
    refine ⟨within', .response rfl none, allowed, ?_, ?_⟩
    · dsimp only
      omega
    · dsimp only
      omega

/-- The end of a timer finds no GET in flight, so it sends one. -/
theorem onAckTimerExpired_of_draining (draining : s.phase = .draining) :
    s.onAckTimerExpired =
      ⟨.fetch,
        { s with
          phase := .awaitingResponse
          outstandingAckTimers := s.outstandingAckTimers - 1
          requestsSent := s.requestsSent + 1 }, []⟩ := by
  simp [Session.onAckTimerExpired, Session.isTerminated, Session.fetch, draining]

theorem ackTimer_sound {delay : Span} (awaits : Awaits limit ackTimerLimit n s [.ackTimer delay]) :
    Sound limit ackTimerLimit (n + 1) (settle s.onAckTimerExpired []) := by
  obtain ⟨within, expects, allowed, balance, completed⟩ := awaits
  obtain ⟨draining, one⟩ : s.phase = .draining ∧ s.outstandingAckTimers = 1 := by
    cases expects with
    | ackTimer draining one => exact ⟨draining, one⟩
  have within' := Session.moves_within within (Session.onAckTimerExpired_moves s)
  rw [onAckTimerExpired_of_draining draining] at within' ⊢
  refine ⟨within', .response rfl (by simp [one]), allowed, ?_, ?_⟩
  · dsimp only
    omega
  · dsimp only
    omega

theorem eq_of_singleton {α : Type} {early late : List α} {x y : α} (queue : early ++ x :: late = [y]) :
    x = y ∧ early ++ late = [] := by
  cases early with
  | nil =>
    obtain ⟨same, none⟩ := List.cons.inj queue
    exact ⟨same, none⟩
  | cons first rest => simp at queue

theorem step_sound (sound : Sound limit ackTimerLimit n a) (step : Step a b) :
    Sound limit ackTimerLimit (n + 1) b := by
  -- Only one thing is pending, so it is what comes, and nothing is left beside it.
  cases step with
  | @response early late result s =>
    have awaits : Awaits limit ackTimerLimit n s (early ++ .response :: late) := sound
    have expects := awaits.expects
    generalize queue : early ++ Pending.response :: late = pending at awaits expects
    cases expects with
    | response =>
      rw [(eq_of_singleton queue).2]
      exact response_sound awaits result
    | ackTimer => exact absurd (eq_of_singleton queue).1 nofun
  | @ackTimer early late delay s =>
    have awaits : Awaits limit ackTimerLimit n s (early ++ .ackTimer delay :: late) := sound
    have expects := awaits.expects
    generalize queue : early ++ Pending.ackTimer delay :: late = pending at awaits expects
    cases expects with
    | response => exact absurd (eq_of_singleton queue).1 nofun
    | ackTimer =>
      rw [(eq_of_singleton queue).2]
      exact ackTimer_sound awaits
  | @stalled s =>
    have awaits : Awaits limit ackTimerLimit n s [] := sound
    exact absurd awaits.expects nofun

theorem reached_sound (reached : Reached parameters limit ackTimerLimit n a) :
    Sound limit ackTimerLimit n a := by
  induction reached with
  | start => exact start_sound parameters limit ackTimerLimit
  | step _ step ih => exact step_sound ih step

/-! ### Progress and length -/

theorem Sound.length_le (sound : Sound limit ackTimerLimit n a) :
    n ≤ limit.toNat * (ackTimerLimit.toNat + 1) + ackTimerLimit.toNat := by
  cases a with
  | awaiting s pending =>
    have awaits : Awaits limit ackTimerLimit n s pending := sound
    have requests := awaits.requests_le
    have timers := awaits.within.scheduled
    have completed := awaits.completed
    omega
  | ended report =>
    have ends : Ends limit ackTimerLimit n report := sound
    have requests := ends.requests
    have timers := ends.timers
    have completed := ends.completed
    omega

theorem Awaits.exists_step (awaits : Awaits limit ackTimerLimit n s pending) :
    ∃ b, Step (.awaiting s pending) b := by
  have expects := awaits.expects
  cases expects with
  | response => exact ⟨_, .response [] [] (.error .timeout)⟩
  | ackTimer => exact ⟨_, .ackTimer [] []⟩

/-! ### Counters of 32 bits -/

/-- While limits allow fewer GETs than a word of 32 bits counts, no counter overflows. -/
theorem Awaits.fits (awaits : Awaits limit ackTimerLimit n s pending)
    (small : limit.toNat * (ackTimerLimit.toNat + 1) < UInt32.size) : s.Fits := by
  rw [← Nat.max_eq_left awaits.allowed] at small
  obtain ⟨counter, outstanding, requests, timers, reissues⟩ := awaits.within.lt_of_limits small
  exact ⟨counter, outstanding, requests, timers, reissues⟩

theorem Ends.fits {report : DrainReport} (ends : Ends limit ackTimerLimit n report)
    (small : limit.toNat * (ackTimerLimit.toNat + 1) < UInt32.size) : report.Fits where
  requestsSent := Nat.lt_of_le_of_lt ends.requests small
  ackTimersScheduled := Nat.lt_of_le_of_lt ends.timers ackTimerLimit.toNat_lt_size
  immediateReissues := Nat.lt_of_le_of_lt (Nat.le_trans ends.reissues ends.requests) small

/-! ### The drains over a transport -/

section Drive

variable {σ : Type} [Transport σ] {fetcher : Fetcher}

omit [Transport σ] in
theorem carry_of_going {action : Action} (s : Session) (pending : List Pending)
    (going : ∀ reason, action = .stop reason → False) :
    carry action s pending = .awaiting s (pending ++ action.pending) := by
  cases action with
  | stop reason => exact absurd rfl (going reason)
  | _ => rfl

theorem reached_drive (action : Action) (f : Flight σ)
    (reached : Reached parameters limit ackTimerLimit n (carry action f.session f.pending)) :
    ∃ m, Reached parameters limit ackTimerLimit m (.ended (Flight.drive fetcher action f).report) := by
  fun_induction Flight.drive fetcher action f generalizing n with
  | case1 f reason => exact ⟨n, reached⟩
  | case2 f action going none =>
    have stands : carry action f.session f.pending = .awaiting f.session [] := by
      rw [← none]
      exact carry_of_going _ _ going
    rw [stands] at reached
    exact ⟨n + 1, reached.step .stalled⟩
  | case3 f action going completion rest queue next =>
    rename_i ih
    have stands : carry action f.session f.pending = .awaiting f.session (completion :: rest) := by
      rw [← queue]
      exact carry_of_going _ _ going
    rw [stands] at reached
    refine ih (n := n + 1) (reached.step ?_)
    cases completion with
    | response => exact .response [] rest (Transport.get f.transport fetcher.request).1.result
    | ackTimer delay => exact .ackTimer [] rest

/-- A drain over a transport is one of the courses that the completions can take. -/
theorem reached_drainAll (fetcher : Fetcher) (t : σ) :
    ∃ n, Reached fetcher.parameters fetcher.limit fetcher.ackTimerLimit n
      (.ended (fetcher.drainAll t).report) := by
  unfold Fetcher.drainAll
  exact reached_drive _ _ .start

theorem fits_drainAll (fetcher : Fetcher) (t : σ)
    (small : fetcher.limit.toNat * (fetcher.ackTimerLimit.toNat + 1) < UInt32.size) :
    (fetcher.drainAll t).report.Fits := by
  obtain ⟨n, reached⟩ := reached_drainAll fetcher t
  have ends : Ends fetcher.limit fetcher.ackTimerLimit n (fetcher.drainAll t).report := reached_sound reached
  exact ends.fits small

end Drive

theorem Awaits.pending_cases (awaits : Awaits limit ackTimerLimit n s pending) :
    (pending = [.response] ∧ s.phase = .awaitingResponse ∧ s.outstandingAckTimers = 0 ∧
        ∀ result, (s.onResponse result).action ≠ .wait) ∨
      ∃ delay, pending = [.ackTimer delay] ∧ s.phase = .draining ∧ s.outstandingAckTimers = 1 ∧
        s.onAckTimerExpired.action = .fetch := by
  have expects := awaits.expects
  cases expects with
  | response awaiting none =>
    refine .inl ⟨rfl, awaiting, none, fun result waits => ?_⟩
    have underway : s.isTerminated = false := by simp [Session.isTerminated, awaiting]
    have answers := Session.onResponse_answers result underway
    rw [waits] at answers
    generalize (s.onResponse result).session = s' at answers
    cases answers with
    | defers some => omega
  | @ackTimer delay draining one =>
    refine .inr ⟨delay, rfl, draining, one, ?_⟩
    rw [onAckTimerExpired_of_draining draining]

/--
However the completions come and whatever the responses are: a drain waits for the response to one GET, with
no timer under way, or for one timer, with no GET in flight; no completion leaves it with nothing to do but
wait; it does not stall; and it has ended once as many completions have come as its limits allow, with one
GET for the start, for each timer and for each time that it was sent again at once. No counter leaves its 32 bits
on the way if the limits allow no more GETs than that.
-/
theorem drain_in_any_order (parameters : QueueParameters) (limit ackTimerLimit : UInt32) :
    (∀ n s pending, Reached parameters limit ackTimerLimit n (.awaiting s pending) →
        ((pending = [.response] ∧ s.phase = .awaitingResponse ∧ s.outstandingAckTimers = 0 ∧
            ∀ result, (s.onResponse result).action ≠ .wait) ∨
          ∃ delay, pending = [.ackTimer delay] ∧ s.phase = .draining ∧ s.outstandingAckTimers = 1 ∧
            s.onAckTimerExpired.action = .fetch) ∧
        (∃ b, Step (.awaiting s pending) b) ∧
        (limit.toNat * (ackTimerLimit.toNat + 1) < UInt32.size → s.Fits)) ∧
      (∀ n report, Reached parameters limit ackTimerLimit n (.ended report) →
        report.reason ≠ .stalled ∧
          (0 < limit.toNat →
            report.requestsSent = 1 + report.ackTimersScheduled + report.immediateReissues ∧
              report.requestsSent ≤ limit.toNat * (ackTimerLimit.toNat + 1)) ∧
          (limit.toNat * (ackTimerLimit.toNat + 1) < UInt32.size → report.Fits)) ∧
      (∀ n a, Reached parameters limit ackTimerLimit n a →
        n ≤ limit.toNat * (ackTimerLimit.toNat + 1) + ackTimerLimit.toNat) ∧
      ∀ (σ : Type) [Transport σ] (request : GetRequest) (t : σ), ∃ n,
        Reached parameters limit ackTimerLimit n
          (.ended ((⟨parameters, request, limit, ackTimerLimit⟩ : Fetcher).drainAll t).report) := by
  refine ⟨fun n s pending reached => ?_, fun n report reached => ?_, fun n a reached => ?_, ?_⟩
  · have awaits : Awaits limit ackTimerLimit n s pending := reached_sound reached
    exact ⟨awaits.pending_cases, awaits.exists_step, awaits.fits⟩
  · have ends : Ends limit ackTimerLimit n report := reached_sound reached
    exact ⟨ends.active, fun allowed => ⟨ends.balance allowed, ends.requests⟩, ends.fits⟩
  · exact (reached_sound reached).length_le
  · intro σ _ request t
    exact reached_drainAll ⟨parameters, request, limit, ackTimerLimit⟩ t

end Stage

end Conformance
