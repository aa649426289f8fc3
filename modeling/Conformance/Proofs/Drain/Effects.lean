import Conformance.Proofs.Drain.Scan

/-!
# What a drain leaves behind

A drain sends its request as often as it reports, and nothing else (`transport_drainAll`). What it makes of
the answers depends on the answers alone (`drainAll_congr`). It takes as long as the answers and the waits that it
accepts (`elapsed_drainAll`).
-/

namespace Conformance

namespace ReplyClass

/-- The wait that a reply asks for. -/
def delay? : ReplyClass → Option Span
  | .timer delay => some delay
  | _ => none

end ReplyClass

namespace Scan

variable (s : Scan) (k : Nat)

/-- The latencies of the first `k` replies. -/
def latencies : List Nat := (List.range k).map fun i => (s.receptions i).latency

/-- The waits that the first `k` replies ask for. -/
def delays : List Span := (List.range k).filterMap fun i => (s.classAt i).delay?

theorem latencies_succ : s.latencies (k + 1) = s.latencies k ++ [(s.receptions k).latency] := by
  simp [latencies, List.range_succ]

theorem delays_succ : s.delays (k + 1) = s.delays k ++ (s.classAt k).delay?.toList := by
  rw [delays, List.range_succ, List.filterMap_append]
  cases found : (s.classAt k).delay? <;> simp [delays, found]

theorem length_delays : (s.delays k).length = s.timers k := by
  induction k with
  | zero => simp [delays, timers]
  | succ k ih =>
    rw [delays_succ, List.length_append, ih, timers_succ]
    cases s.classAt k <;> simp [ReplyClass.delay?, ReplyClass.isTimer]

theorem elapsed_eq : s.elapsed k = (s.latencies k).sum + ((s.delays k).map Span.sleepNanos).sum := by
  induction k with
  | zero => rfl
  | succ k ih =>
    have wait : (((s.classAt k).delay?.toList).map Span.sleepNanos).sum = (s.classAt k).wait := by
      cases s.classAt k with
      | timer delay => exact List.sum_singleton
      | terminal reason => rfl
      | other => rfl
    rw [elapsed_succ, ih, latencies_succ, delays_succ, List.sum_append, List.map_append, List.sum_append, wait,
      List.sum_singleton, Nat.add_add_add_comm]

end Scan

namespace Fetcher

variable {σ τ : Type} [Transport σ] [Transport τ] {fetcher : Fetcher}

theorem limit_cases (fetcher : Fetcher) : fetcher.limit = 0 ∨ 0 < fetcher.limit.toNat := by
  rcases Nat.eq_zero_or_pos fetcher.limit.toNat with zero | positive
  · exact .inl (UInt32.toNat_inj.mp zero)
  · exact .inr positive

/-- A drain that may not send anything stops at once. -/
theorem drainAll_of_limit_zero (t : σ) (nothing : fetcher.limit = 0) :
    fetcher.drainAll t =
      ⟨⟨.loopLimit 0, 0, 0, 0⟩, t, 0, #[.loopLimitHit 0, .drainFinished ⟨.loopLimit 0, 0, 0, 0⟩]⟩ := by
  have stops : (Session.new fetcher.parameters fetcher.limit fetcher.ackTimerLimit).start =
      (Session.new fetcher.parameters 0 fetcher.ackTimerLimit).hitLoopLimit := by
    rw [nothing]
    rfl
  simp only [drainAll, stops, Session.hitLoopLimit, Session.abort, Flight.drive_stop]
  rfl

/-- A drain that may send something is the scan of its replies up to the one that ends it. -/
theorem exists_run (fetcher : Fetcher) (t : σ) (allowed : 0 < fetcher.limit.toNat) :
    ∃ k reason, (fetcher.scan t).Ends k reason ∧ (fetcher.scan t).GoesOn k ∧
      fetcher.drainAll t = (fetcher.scan t).run (Transport.after t fetcher.request (k + 1)) k reason := by
  obtain ⟨k, reason, ends, goesOn⟩ := (Scan.GoesOn.zero (fetcher.scan t)).exists_ends allowed
  exact ⟨k, reason, ends, goesOn, drainAll_eq_run ends goesOn allowed⟩

theorem transport_drainAll (fetcher : Fetcher) (t : σ) :
    (fetcher.drainAll t).transport =
      Transport.after t fetcher.request (fetcher.drainAll t).report.requestsSent := by
  rcases fetcher.limit_cases with nothing | allowed
  · rw [drainAll_of_limit_zero t nothing]
    rfl
  · obtain ⟨k, reason, -, -, scanned⟩ := exists_run fetcher t allowed
    rw [scanned]
    rfl

/-- Drains that are answered alike come to the same, each over its own transport. -/
theorem drainAll_congr {t : σ} {t' : τ}
    (alike : ∀ i, Transport.receptionAt t fetcher.request i = Transport.receptionAt t' fetcher.request i) :
    fetcher.drainAll t' =
      { fetcher.drainAll t with
        transport := Transport.after t' fetcher.request (fetcher.drainAll t).report.requestsSent } := by
  rcases fetcher.limit_cases with nothing | allowed
  · rw [drainAll_of_limit_zero t nothing, drainAll_of_limit_zero t' nothing]
    rfl
  · have same : fetcher.scan t' = fetcher.scan t := by
      simp only [scan, Scan.mk.injEq, true_and]
      exact (funext alike).symm
    obtain ⟨k, reason, ends, goesOn, scanned⟩ := exists_run fetcher t allowed
    rw [scanned, drainAll_eq_run (same ▸ ends) (same ▸ goesOn) allowed, same]
    rfl

/-! ### The time that a drain takes -/

/-- The latencies of the replies that the drain consumes. -/
def latencies (fetcher : Fetcher) (t : σ) : List Nat :=
  (fetcher.scan t).latencies (fetcher.drainAll t).report.requestsSent

/-- The waits for which the ACK_TIMERs among these replies ask. -/
def delays (fetcher : Fetcher) (t : σ) : List Span :=
  (fetcher.scan t).delays (fetcher.drainAll t).report.requestsSent

/-- The waits that the drain accepts. -/
def accepted (fetcher : Fetcher) (t : σ) : List Span :=
  (fetcher.delays t).take (fetcher.drainAll t).report.ackTimersScheduled

/--
A drain takes as long as its replies and the waits that it accepts. These are all waits that it is asked for, or all
but the last if that one hits the limit.
-/
theorem elapsed_drainAll (fetcher : Fetcher) (t : σ) :
    let run := fetcher.drainAll t
    run.elapsed = (fetcher.latencies t).sum + ((fetcher.accepted t).map Span.sleepNanos).sum ∧
      (fetcher.delays t).length = run.report.ackTimersScheduled +
        if run.report.reason = .ackTimerLimit fetcher.ackTimerLimit then 1 else 0 := by
  rcases fetcher.limit_cases with nothing | allowed
  · simp only [latencies, accepted, delays, drainAll_of_limit_zero t nothing]
    exact ⟨rfl, rfl⟩
  · obtain ⟨k, reason, ends, -, scanned⟩ := exists_run fetcher t allowed
    simp only [latencies, accepted, delays, scanned, Scan.run, Scan.report]
    constructor
    · rw [Scan.latencies_succ, Scan.delays_succ, ← Scan.length_delays, List.take_left, Scan.elapsed_eq,
        List.sum_append, List.sum_singleton]
      omega
    · rw [Scan.delays_succ, List.length_append, Scan.length_delays]
      cases ends with
      | terminal kind =>
        have unlimited : reason ≠ .ackTimerLimit fetcher.ackTimerLimit := by
          rintro rfl
          rcases QueueParameters.terminal_cases kind with ⟨_, ⟨⟩⟩ | ⟨_, ⟨⟩⟩ | ⟨⟨⟩⟩ | ⟨⟨⟩⟩
        rw [kind, if_neg unlimited]
        rfl
      | ackTimerLimit kind full =>
        rw [kind]
        exact congrArg _ (if_pos rfl).symm
      | loopLimit long all =>
        have allowed : 0 < (fetcher.scan t).limit.toNat := allowed
        rw [all k (Nat.le_refl k) (by omega)]
        rfl

end Fetcher

end Conformance
