import Mathlib.Algebra.Ring.Nat
import Conformance.Proofs.Drain.Deliveries

/-!
# A drain as a scan of the replies

A drain goes through the replies in the order in which they come, up to the first that ends it.
`Scan.Ends` says which reply that is without a session or a loop: it is terminal, or it asks for one
wait too many, or it is the last of too many replies in a row that are neither. `drainAll_eq_run`
shows that the drain over any transport is that scan, and `drainAll_script` says it for scripts.
-/

namespace Conformance

/-! ### One request sent again and again -/

namespace Transport

variable {σ : Type} [Transport σ]

def after (t : σ) (request : GetRequest) : Nat → σ
  | 0 => t
  | n + 1 => (get (after t request n) request).2

def receptionAt (t : σ) (request : GetRequest) (i : Nat) : Reception :=
  (get (after t request i) request).1

end Transport

/-! ### The scan -/

/-- What a drain is given: its parameters, its limits, and what comes of each GET that it may send. -/
structure Scan where
  parameters : QueueParameters
  limit : UInt32
  ackTimerLimit : UInt32
  receptions : Nat → Reception

namespace Scan

def classAt (s : Scan) (i : Nat) : ReplyClass := s.parameters.classify (s.receptions i).result

/-- The number of waits that the first `k` replies ask for. -/
def timers (s : Scan) (k : Nat) : Nat := (List.range k).countP fun i => (s.classAt i).isTimer

/-- The number of replies among the first `k` after which the GET is sent again at once. -/
def others (s : Scan) (k : Nat) : Nat := (List.range k).countP fun i => (s.classAt i).isOther

/-- The reply at index `k` ends a drain that gets as far as that reply. -/
inductive Ends (s : Scan) (k : Nat) : StopReason → Prop where
  | terminal {reason : StopReason} : s.classAt k = .terminal reason → s.Ends k reason
  | ackTimerLimit {delay : Span} : s.classAt k = .timer delay → s.timers k = s.ackTimerLimit.toNat →
      s.Ends k (.ackTimerLimit s.ackTimerLimit)
  | loopLimit : s.limit.toNat ≤ k + 1 → (∀ j ≤ k, k < j + s.limit.toNat → s.classAt j = .other) →
      s.Ends k (.loopLimit s.limit)

/-- None of the first `k` replies ends the drain. -/
def GoesOn (s : Scan) (k : Nat) : Prop := ∀ j < k, ∀ reason, ¬ s.Ends j reason

/-- The time until the GET at index `k` is sent: the latencies and the waits before it. -/
def elapsed (s : Scan) (k : Nat) : Nat :=
  ((List.range k).map fun i => (s.receptions i).latency + (s.classAt i).wait).sum

/-- The log of a reply that does not end the drain. -/
def eventsAt (s : Scan) (i : Nat) : List Event :=
  (s.receptions i).remarks.map Event.remark ++
    match s.classAt i with
    | .timer delay => [.ackTimerSet delay]
    | _ => []

/-- The log of the reply that ends the drain. -/
def closing (s : Scan) (k : Nat) : List Event :=
  (s.receptions k).remarks.map Event.remark ++
    match s.classAt k with
    | .terminal _ => (s.receptions k).result.complaints
    | .timer _ => [.ackTimerLimitHit s.ackTimerLimit]
    | .other => [.loopLimitHit s.limit]

def report (s : Scan) (k : Nat) (reason : StopReason) : DrainReport :=
  ⟨reason, k + 1, s.timers k, s.others k⟩

/-- What a drain comes to that the reply at index `k` ends, over the transport that it leaves. -/
def run (s : Scan) {σ : Type} (transport : σ) (k : Nat) (reason : StopReason) : DrainRun σ where
  report := s.report k reason
  transport := transport
  elapsed := s.elapsed k + (s.receptions k).latency
  events := ((List.range k).flatMap s.eventsAt ++ s.closing k ++ [Event.drainFinished (s.report k reason)]).toArray

/-! ### Counting replies -/

theorem timers_succ (s : Scan) (k : Nat) :
    s.timers (k + 1) = s.timers k + if (s.classAt k).isTimer then 1 else 0 := by
  simp only [timers, List.range_succ, List.countP_append, List.countP_singleton]

theorem others_succ (s : Scan) (k : Nat) :
    s.others (k + 1) = s.others k + if (s.classAt k).isOther then 1 else 0 := by
  simp only [others, List.range_succ, List.countP_append, List.countP_singleton]

theorem elapsed_succ (s : Scan) (k : Nat) :
    s.elapsed (k + 1) = s.elapsed k + ((s.receptions k).latency + (s.classAt k).wait) := by
  simp [elapsed, List.range_succ]

/-- The number of replies right before index `k` after which the GET is sent again at once. -/
def streak (s : Scan) : Nat → Nat
  | 0 => 0
  | k + 1 => if (s.classAt k).isOther then streak s k + 1 else 0

theorem isOther_iff (c : ReplyClass) : c.isOther = true ↔ c = .other := by
  cases c <;> simp [ReplyClass.isOther]

theorem le_streak_iff (s : Scan) (n k : Nat) :
    n ≤ s.streak k ↔ n ≤ k ∧ ∀ j < k, k ≤ j + n → s.classAt j = .other := by
  induction k generalizing n with
  | zero => simp [streak]
  | succ k ih =>
    cases n with
    | zero =>
      refine ⟨fun _ => ⟨Nat.zero_le _, fun j below above => ?_⟩, fun _ => Nat.zero_le _⟩
      omega
    | succ n =>
      rw [streak]
      by_cases other : (s.classAt k).isOther = true
      · rw [if_pos other, Nat.succ_le_succ_iff, ih, Nat.succ_le_succ_iff]
        refine and_congr_right fun _ => ⟨fun all j below above => ?_, fun all j below above => ?_⟩
        · by_cases last : j = k
          · rw [last]
            exact (isOther_iff _).mp other
          · exact all j (by omega) (by omega)
        · exact all j (by omega) (by omega)
      · rw [if_neg other]
        refine ⟨fun h => absurd h (by omega), fun ⟨_, all⟩ => ?_⟩
        exact absurd ((isOther_iff _).mpr (all k (by omega) (by omega))) other

variable {s : Scan} {k : Nat}

theorem last_iff (allowed : 0 < s.limit.toNat) :
    (s.classAt k = .other ∧ s.limit.toNat ≤ s.streak k + 1) ↔
      s.limit.toNat ≤ k + 1 ∧ ∀ j ≤ k, k < j + s.limit.toNat → s.classAt j = .other := by
  have inARow := s.le_streak_iff (s.limit.toNat - 1) k
  constructor
  · rintro ⟨kind, full⟩
    obtain ⟨long, all⟩ := inARow.mp (by omega)
    refine ⟨by omega, fun j upTo above => ?_⟩
    by_cases last : j = k
    · rw [last]
      exact kind
    · exact all j (by omega) (by omega)
  · rintro ⟨long, all⟩
    have enough := inARow.mpr ⟨by omega, fun j below above => all j (by omega) (by omega)⟩
    exact ⟨all k (Nat.le_refl k) (by omega), by omega⟩

/-- The reason for which the reply at index `k` ends the drain, by the counts before it. -/
def endAt? (s : Scan) (k : Nat) : Option StopReason :=
  match s.classAt k with
  | .terminal reason => some reason
  | .timer _ => if s.timers k = s.ackTimerLimit.toNat then some (.ackTimerLimit s.ackTimerLimit) else none
  | .other => if s.limit.toNat ≤ s.streak k + 1 then some (.loopLimit s.limit) else none

theorem ends_iff {reason : StopReason} (allowed : 0 < s.limit.toNat) :
    s.Ends k reason ↔ s.endAt? k = some reason := by
  constructor
  · intro ends
    cases ends with
    | terminal kind => simp only [endAt?, kind]
    | ackTimerLimit kind full => simp only [endAt?, kind, full, if_true]
    | loopLimit long all =>
      obtain ⟨kind, full⟩ := (last_iff allowed).mpr ⟨long, all⟩
      simp only [endAt?, kind, full, if_true]
  · intro h
    unfold endAt? at h
    cases kind : s.classAt k with
    | terminal found =>
      simp only [kind, Option.some.injEq] at h
      exact h ▸ .terminal kind
    | timer delay =>
      simp only [kind, Option.ite_none_right_eq_some, Option.some.injEq] at h
      exact h.2 ▸ .ackTimerLimit kind h.1
    | other =>
      simp only [kind, Option.ite_none_right_eq_some, Option.some.injEq] at h
      obtain ⟨long, all⟩ := (last_iff allowed).mp ⟨kind, h.1⟩
      exact h.2 ▸ .loopLimit long all

/-- What the two limits leave before the reply at index `k`. -/
def room (s : Scan) (k : Nat) : Nat :=
  (s.ackTimerLimit.toNat - s.timers k) * (s.limit.toNat + 1) + (s.limit.toNat - s.streak k)

namespace GoesOn

theorem zero (s : Scan) : s.GoesOn 0 := fun _ below => absurd below (Nat.not_lt_zero _)

theorem succ (goesOn : s.GoesOn k) (open_ : ∀ reason, ¬ s.Ends k reason) : s.GoesOn (k + 1) := by
  intro j below
  by_cases last : j = k
  · rw [last]
    exact open_
  · exact goesOn j (by omega)

theorem streak_lt (goesOn : s.GoesOn k) (allowed : 0 < s.limit.toNat) : s.streak k < s.limit.toNat := by
  apply Nat.lt_of_not_le
  intro reached
  obtain ⟨long, all⟩ := (s.le_streak_iff _ k).mp reached
  obtain ⟨i, rfl⟩ : ∃ i, k = i + 1 := ⟨k - 1, by omega⟩
  exact goesOn i (by omega) _ (.loopLimit (by omega) fun j below above => all j (by omega) (by omega))

theorem timers_le (goesOn : s.GoesOn k) : s.timers k ≤ s.ackTimerLimit.toNat := by
  induction k with
  | zero => exact Nat.zero_le _
  | succ k ih =>
    have before := ih fun j below => goesOn j (by omega)
    rw [timers_succ]
    cases kind : s.classAt k with
    | timer delay =>
      have room : s.timers k ≠ s.ackTimerLimit.toNat := fun full =>
        goesOn k (by omega) _ (.ackTimerLimit kind full)
      simp only [ReplyClass.isTimer, if_true]
      omega
    | terminal reason => exact before
    | other => exact before

theorem room_lt (goesOn : s.GoesOn (k + 1)) (allowed : 0 < s.limit.toNat) : s.room (k + 1) < s.room k := by
  have timersBelow := goesOn.timers_le
  have streakBelow := goesOn.streak_lt allowed
  rw [timers_succ] at timersBelow
  rw [streak] at streakBelow
  rw [room, room, timers_succ, streak]
  cases kind : s.classAt k with
  | terminal reason => exact absurd (.terminal kind) (goesOn k (Nat.lt_succ_self k) reason)
  | timer delay =>
    -- One wait less is left, which weighs more than the count of replies in a row that starts again.
    simp only [kind, ReplyClass.isTimer, if_true] at timersBelow
    have less : s.ackTimerLimit.toNat - s.timers k = s.ackTimerLimit.toNat - (s.timers k + 1) + 1 := by omega
    simp only [ReplyClass.isTimer, ReplyClass.isOther, if_true, Bool.false_eq_true, if_false, less,
      Nat.succ_mul]
    omega
  | other =>
    simp only [kind, ReplyClass.isOther, if_true] at streakBelow
    simp only [ReplyClass.isTimer, ReplyClass.isOther, if_true, Bool.false_eq_true, if_false, Nat.add_zero]
    omega

theorem exists_ends (goesOn : s.GoesOn k) (allowed : 0 < s.limit.toNat) :
    ∃ k reason, s.Ends k reason ∧ s.GoesOn k := by
  -- The limits leave less with every reply, so some reply is the last.
  induction left : s.room k using Nat.strongRecOn generalizing k with
  | ind n ih =>
    by_cases ended : ∃ reason, s.Ends k reason
    · obtain ⟨reason, ends⟩ := ended
      exact ⟨k, reason, ends, goesOn⟩
    · have further := goesOn.succ fun reason ends => ended ⟨reason, ends⟩
      exact ih _ (left ▸ further.room_lt allowed) further rfl

end GoesOn

/-- The session of a drain that waits for the reply at index `i`. -/
def session (s : Scan) (i : Nat) : Session where
  phase := .awaitingResponse
  parameters := s.parameters
  limit := s.limit
  ackTimerLimit := s.ackTimerLimit
  counter := s.streak i
  outstandingAckTimers := 0
  requestsSent := i + 1
  ackTimersScheduled := s.timers i
  immediateReissues := s.others i

/-! ### What the session makes of each class -/

variable {i : Nat}

theorem onResponse_session (s : Scan) (i : Nat) :
    (s.session i).onResponse (s.receptions i).result =
      match s.classAt i with
      | .terminal reason =>
        let t := { s.session i with phase := .draining }.finish reason
        { t with events := (s.receptions i).result.complaints ++ t.events }
      | .timer delay => { s.session i with phase := .draining }.takeAckTimer delay
      | .other => { s.session i with phase := .draining }.reissue :=
  Session.onResponse_eq _ _ rfl

theorem onResponse_terminal {reason : StopReason} (kind : s.classAt i = .terminal reason) :
    (s.session i).onResponse (s.receptions i).result =
      { (s.session i).abort reason with events := (s.receptions i).result.complaints } := by
  rw [onResponse_session, kind]
  simp only [session, Session.finish, Session.abort, if_true, List.append_nil]

theorem onResponse_lastTimer {delay : Span} (kind : s.classAt i = .timer delay)
    (full : s.timers i = s.ackTimerLimit.toNat) :
    (s.session i).onResponse (s.receptions i).result =
      { (s.session i).abort (.ackTimerLimit s.ackTimerLimit) with
        events := [.ackTimerLimitHit s.ackTimerLimit] } := by
  rw [onResponse_session, kind]
  simp only [session, Session.takeAckTimer, Session.abort, full, Nat.le_refl, if_true]

theorem onResponse_timer {delay : Span} (kind : s.classAt i = .timer delay)
    (room : s.timers i < s.ackTimerLimit.toNat) :
    (s.session i).onResponse (s.receptions i).result =
      ⟨.scheduleAckTimer delay,
        { s.session i with
          phase := .draining
          counter := 0
          outstandingAckTimers := 1
          ackTimersScheduled := s.timers i + 1 },
        [.ackTimerSet delay]⟩ := by
  rw [onResponse_session, kind]
  simp only [session, Session.takeAckTimer, Nat.not_le.mpr room, if_false]

theorem onResponse_lastOther (kind : s.classAt i = .other) (full : s.limit.toNat ≤ s.streak i + 1) :
    (s.session i).onResponse (s.receptions i).result =
      { ({ s.session i with counter := s.streak i + 1 }).abort (.loopLimit s.limit) with
        events := [.loopLimitHit s.limit] } := by
  rw [onResponse_session, kind]
  simp only [session, Session.reissue, Session.hitLoopLimit, Session.abort, full, if_true]

theorem onResponse_other (kind : s.classAt i = .other) (room : s.streak i + 1 < s.limit.toNat) :
    (s.session i).onResponse (s.receptions i).result = ⟨.fetch, s.session (i + 1), []⟩ := by
  rw [onResponse_session, kind]
  simp only [session, Session.reissue, Session.fetch, Nat.not_le.mpr room, if_false, streak, timers_succ,
    others_succ, kind, ReplyClass.isOther, ReplyClass.isTimer, if_true, Bool.false_eq_true, Nat.add_zero]

theorem onAckTimerExpired_session {delay : Span} (kind : s.classAt i = .timer delay) :
    ({ s.session i with
        phase := .draining
        counter := 0
        outstandingAckTimers := 1
        ackTimersScheduled := s.timers i + 1 }).onAckTimerExpired =
      ⟨.fetch, s.session (i + 1), []⟩ := by
  simp only [session, Session.onAckTimerExpired, Session.isTerminated, Session.fetch, streak, timers_succ,
    others_succ, kind, ReplyClass.isOther, ReplyClass.isTimer, if_true, Bool.false_eq_true, if_false,
    reduceCtorEq, Nat.add_zero, Nat.sub_self]

end Scan

/-! ### The loop follows the scan -/

namespace Fetcher

variable {σ : Type} [Transport σ]

def scan (fetcher : Fetcher) (t : σ) : Scan :=
  ⟨fetcher.parameters, fetcher.limit, fetcher.ackTimerLimit, Transport.receptionAt t fetcher.request⟩

/-- The drain when the GET at index `i` is about to be sent. -/
def flight (fetcher : Fetcher) (t : σ) (i : Nat) : Flight σ where
  session := (fetcher.scan t).session i
  pending := []
  transport := Transport.after t fetcher.request i
  elapsed := (fetcher.scan t).elapsed i
  events := ((List.range i).flatMap (fetcher.scan t).eventsAt).toArray

/-- The drain right after the reply at index `i`, with what the session makes of it. -/
def answered (fetcher : Fetcher) (t : σ) (i : Nat) (next : Transition) : Flight σ where
  session := next.session
  pending := []
  transport := Transport.after t fetcher.request (i + 1)
  elapsed := (fetcher.scan t).elapsed i + ((fetcher.scan t).receptions i).latency
  events := ((List.range i).flatMap (fetcher.scan t).eventsAt).toArray ++
    ((fetcher.scan t).receptions i).remarks.map Event.remark ++ next.events

variable {fetcher : Fetcher} {t : σ} {i : Nat}

theorem drive_flight {next : Transition}
    (takes : ((fetcher.scan t).session i).onResponse ((fetcher.scan t).receptions i).result = next) :
    Flight.drive fetcher .fetch (fetcher.flight t i) =
      Flight.drive fetcher next.action (fetcher.answered t i next) := by
  subst takes
  exact Flight.drive_fetch _ _ rfl

theorem drive_flight_stop {next : Transition} {reason : StopReason}
    (takes : ((fetcher.scan t).session i).onResponse ((fetcher.scan t).receptions i).result = next)
    (stops : next.action = .stop reason) (counts : next.session.report reason = (fetcher.scan t).report i reason)
    (log : (fetcher.scan t).closing i =
      ((fetcher.scan t).receptions i).remarks.map Event.remark ++ next.events) :
    Flight.drive fetcher .fetch (fetcher.flight t i) =
      (fetcher.scan t).run (Transport.after t fetcher.request (i + 1)) i reason := by
  rw [drive_flight takes, stops, Flight.drive_stop]
  simp only [Flight.land, answered, counts, Scan.run, log]
  simp

theorem drive_flight_ends {reason : StopReason} (ends : (fetcher.scan t).Ends i reason)
    (allowed : 0 < fetcher.limit.toNat) :
    Flight.drive fetcher .fetch (fetcher.flight t i) =
      (fetcher.scan t).run (Transport.after t fetcher.request (i + 1)) i reason := by
  cases ends with
  | terminal kind =>
    refine drive_flight_stop (Scan.onResponse_terminal kind) rfl rfl ?_
    simp only [Scan.closing, kind]
  | ackTimerLimit kind full =>
    refine drive_flight_stop (Scan.onResponse_lastTimer kind full) rfl rfl ?_
    simp only [Scan.closing, kind]
  | loopLimit long all =>
    obtain ⟨kind, full⟩ := (Scan.last_iff (s := fetcher.scan t) allowed).mpr ⟨long, all⟩
    refine drive_flight_stop (Scan.onResponse_lastOther kind full) rfl rfl ?_
    simp only [Scan.closing, kind]

theorem flight_succ (fetcher : Fetcher) (t : σ) (i : Nat) :
    fetcher.flight t (i + 1) =
      { session := (fetcher.scan t).session (i + 1)
        pending := []
        transport := Transport.after t fetcher.request (i + 1)
        elapsed := (fetcher.scan t).elapsed i + ((fetcher.scan t).receptions i).latency +
          ((fetcher.scan t).classAt i).wait
        events := (fetcher.flight t i).events ++ (fetcher.scan t).eventsAt i } := by
  simp [flight, Scan.elapsed_succ, List.range_succ, Nat.add_assoc]

theorem drive_flight_goesOn (goesOn : (fetcher.scan t).GoesOn (i + 1)) (allowed : 0 < fetcher.limit.toNat) :
    Flight.drive fetcher .fetch (fetcher.flight t i) =
      Flight.drive fetcher .fetch (fetcher.flight t (i + 1)) := by
  have timersBelow := goesOn.timers_le
  have streakBelow := goesOn.streak_lt allowed
  rw [Scan.timers_succ] at timersBelow
  rw [Scan.streak] at streakBelow
  cases kind : (fetcher.scan t).classAt i with
  | terminal reason => exact absurd (.terminal kind) (goesOn i (Nat.lt_succ_self i) reason)
  | timer delay =>
    simp only [kind, ReplyClass.isTimer, if_true] at timersBelow
    rw [drive_flight (Scan.onResponse_timer kind timersBelow), Flight.drive_scheduleAckTimer _ _ _ rfl,
      flight_succ]
    simp [Flight.deliver, answered, Scan.onAckTimerExpired_session kind, flight, Scan.eventsAt, kind,
      ReplyClass.wait]
  | other =>
    simp only [kind, ReplyClass.isOther, if_true] at streakBelow
    rw [drive_flight (Scan.onResponse_other kind streakBelow), flight_succ]
    simp [answered, flight, Scan.eventsAt, kind, ReplyClass.wait]

theorem drive_flight_zero {k : Nat} (goesOn : (fetcher.scan t).GoesOn k) (allowed : 0 < fetcher.limit.toNat) :
    Flight.drive fetcher .fetch (fetcher.flight t 0) = Flight.drive fetcher .fetch (fetcher.flight t k) := by
  induction k with
  | zero => rfl
  | succ k ih => exact (ih fun j below => goesOn j (by omega)).trans (drive_flight_goesOn goesOn allowed)

theorem drainAll_eq_drive (fetcher : Fetcher) (t : σ) (allowed : 0 < fetcher.limit.toNat) :
    fetcher.drainAll t = Flight.drive fetcher .fetch (fetcher.flight t 0) := by
  have some : fetcher.limit ≠ 0 := by
    intro zero
    simp [zero] at allowed
  simp only [drainAll, Session.start, Session.new, some, if_true, if_false]
  rfl

/-- A drain over any transport ends with the first reply that ends the scan. -/
theorem drainAll_eq_run {k : Nat} {reason : StopReason} (ends : (fetcher.scan t).Ends k reason)
    (goesOn : (fetcher.scan t).GoesOn k) (allowed : 0 < fetcher.limit.toNat) :
    fetcher.drainAll t = (fetcher.scan t).run (Transport.after t fetcher.request (k + 1)) k reason := by
  rw [drainAll_eq_drive fetcher t allowed, drive_flight_zero goesOn allowed, drive_flight_ends ends allowed]

/-! ### Scripts -/

/-- What comes of a GET for the parameter when the script holds the given reply for it, or no more. -/
def receptionOf (pid : ParameterId) : Option Reply → Reception
  | some reply => ⟨reply.result, reply.latency.sleepNanos, []⟩
  | none => ⟨.error (.scriptExhausted pid.display), 0, [Script.noReplyLeft pid]⟩

theorem get_script (replies : List Reply) (earlier : Array GetRequest) (request : GetRequest) :
    Transport.get (⟨replies, earlier⟩ : Script) request =
      (receptionOf request.pid replies.head?, ⟨replies.tail, earlier.push request⟩) := by
  cases replies <;> rfl

theorem after_script (replies : List Reply) (earlier : Array GetRequest) (request : GetRequest) (n : Nat) :
    Transport.after (⟨replies, earlier⟩ : Script) request n =
      ⟨replies.drop n, earlier ++ Array.replicate n request⟩ := by
  induction n with
  | zero => simp [Transport.after]
  | succ n ih =>
    rw [Transport.after, ih, get_script, List.tail_drop, Array.replicate_succ, Array.append_push]

/-- The scan of a script: past its end there is no reply left. -/
def scriptScan (fetcher : Fetcher) (replies : List Reply) : Scan where
  parameters := fetcher.parameters
  limit := fetcher.limit
  ackTimerLimit := fetcher.ackTimerLimit
  receptions i := receptionOf fetcher.request.pid replies[i]?

theorem scan_script (fetcher : Fetcher) (replies : List Reply) (earlier : Array GetRequest) :
    fetcher.scan (⟨replies, earlier⟩ : Script) = fetcher.scriptScan replies := by
  simp only [scan, scriptScan, Scan.mk.injEq, true_and]
  funext i
  rw [Transport.receptionAt, after_script, get_script, List.head?_drop]

/--
A drain over a script is the scan of its replies: some reply ends the scan, and the drain stops with the
first that does. It has then sent one GET for each reply up to that one and left the rest of the script,
its counts are those of the replies before the last, and its time is their latencies and waits. The counts fit in
32 bits if the limits allow no more GETs than that.
-/
theorem drainAll_script (fetcher : Fetcher) (replies : List Reply) (earlier : Array GetRequest)
    (allowed : 0 < fetcher.limit.toNat) :
    (∃ k reason, (fetcher.scriptScan replies).Ends k reason ∧ (fetcher.scriptScan replies).GoesOn k) ∧
      (∀ k reason, (fetcher.scriptScan replies).Ends k reason → (fetcher.scriptScan replies).GoesOn k →
        fetcher.drainAll (⟨replies, earlier⟩ : Script) =
          (fetcher.scriptScan replies).run
            (⟨replies.drop (k + 1), earlier ++ Array.replicate (k + 1) fetcher.request⟩ : Script)
            k reason) ∧
      (fetcher.limit.toNat * (fetcher.ackTimerLimit.toNat + 1) < UInt32.size →
        (fetcher.drainAll (⟨replies, earlier⟩ : Script)).report.Fits) := by
  refine ⟨(Scan.GoesOn.zero _).exists_ends allowed, fun k reason ends goesOn => ?_, Stage.fits_drainAll fetcher _⟩
  rw [← scan_script fetcher replies earlier] at ends goesOn ⊢
  rw [drainAll_eq_run ends goesOn allowed, after_script]

/-- A wait starts the count of replies in a row again, so three of them pass a limit of two. -/
theorem drainAll_script_restarts_count :
    let fetcher : Fetcher :=
      ⟨⟨.queuedMessage, .statusMessages⟩, .queuedMessage 1 .zero .queuedMessage .advisory, 2, 1⟩
    let other : Reply := ⟨.ok (.ack .statusMessages none), .zero⟩
    let timer : Reply := ⟨.ok (.ackTimer .queuedMessage (.ofMillis 100)), .ofMillis 5⟩
    let last : Reply := ⟨.ok (.nack .queuedMessage .unknownPid), .ofMillis 20⟩
    let run := fetcher.drainAll (⟨[other, timer, other, last, other], #[]⟩ : Script)
    0 < fetcher.limit.toNat ∧ run.report = ⟨.noQueuedMessages, 4, 1, 2⟩ ∧ run.elapsed = 125000000 ∧
      run.transport.remaining = 1 := by
  intro fetcher other timer last run
  have goesOn : (fetcher.scriptScan [other, timer, other, last, other]).GoesOn 3 := by
    intro j below reason ends
    have never : ∀ j < 3, (fetcher.scriptScan [other, timer, other, last, other]).endAt? j = none := by decide
    rw [Scan.ends_iff (by decide), never j below] at ends
    cases ends
  have scanned : run = _ :=
    (drainAll_script fetcher [other, timer, other, last, other] #[] (by decide)).2.1 3 .noQueuedMessages
      (.terminal (by decide)) goesOn
  rw [scanned]
  exact ⟨by decide, by decide, by decide, rfl⟩

end Fetcher

end Conformance
