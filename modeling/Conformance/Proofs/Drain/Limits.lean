import Conformance.Proofs.Drain.Effects

/-!
# Higher limits

Limits show only in drains that run into them. Where the replies do not end a drain, they do not end it under
higher limits either (`Scan.GoesOn.raise`), and what ends it without a limit ends it under any
(`Scan.Ends.raise`). So higher limits leave such a drain as it is, and let the others go at least as far.
-/

namespace Conformance

namespace StopReason

def isLimit : StopReason → Bool
  | loopLimit _ => true
  | ackTimerLimit _ => true
  | _ => false

end StopReason

namespace Scan

variable {s : Scan} {k k' : Nat} {limit ackTimerLimit : UInt32} {reason : StopReason}

/-- The same replies under other limits. -/
def raise (s : Scan) (limit ackTimerLimit : UInt32) : Scan := { s with limit, ackTimerLimit }

theorem timers_mono (s : Scan) (le : k ≤ k') : s.timers k ≤ s.timers k' := (List.range_sublist.mpr le).countP_le

theorem others_mono (s : Scan) (le : k ≤ k') : s.others k ≤ s.others k' := (List.range_sublist.mpr le).countP_le

theorem GoesOn.raise (goesOn : s.GoesOn k) (higher : s.limit.toNat ≤ limit.toNat)
    (higher' : s.ackTimerLimit.toNat ≤ ackTimerLimit.toNat) : (s.raise limit ackTimerLimit).GoesOn k := by
  intro j below reason ends
  have before : s.GoesOn j := fun i earlier => goesOn i (by omega)
  cases ends with
  | terminal kind => exact goesOn j below _ (.terminal kind)
  | ackTimerLimit kind full =>
    -- Up to here the lower limit allows no more waits than itself, and there are as many as the higher one.
    have some : s.timers j = ackTimerLimit.toNat := full
    have few := before.timers_le
    exact goesOn j below _ (.ackTimerLimit kind (by omega))
  | loopLimit long all =>
    have long : limit.toNat ≤ j + 1 := long
    have all : ∀ i ≤ j, j < i + limit.toNat → s.classAt i = .other := all
    exact goesOn j below _ (.loopLimit (by omega) fun i upTo above => all i upTo (by omega))

theorem Ends.raise (ends : s.Ends k reason) (unlimited : reason.isLimit = false) (limit ackTimerLimit : UInt32) :
    s.classAt k = .terminal reason ∧ (s.raise limit ackTimerLimit).Ends k reason := by
  cases ends with
  | terminal kind => exact ⟨kind, .terminal kind⟩
  | ackTimerLimit _ _ => cases unlimited
  | loopLimit _ _ => cases unlimited

/-- A drain that a reply ends without a limit comes to the same under other limits. -/
theorem run_raise {σ : Type} (transport : σ) (kind : s.classAt k = .terminal reason) (limit ackTimerLimit : UInt32) :
    (s.raise limit ackTimerLimit).run transport k reason = s.run transport k reason := by
  have kind' : (s.raise limit ackTimerLimit).classAt k = .terminal reason := kind
  have closing : (s.raise limit ackTimerLimit).closing k = s.closing k := by
    simp only [Scan.closing, kind, kind']
    rfl
  simp only [run, closing]
  rfl

end Scan

namespace Fetcher

variable {σ : Type} [Transport σ] {fetcher : Fetcher} {limit ackTimerLimit : UInt32}

def raise (fetcher : Fetcher) (limit ackTimerLimit : UInt32) : Fetcher := { fetcher with limit, ackTimerLimit }

theorem scan_raise (t : σ) :
    (fetcher.raise limit ackTimerLimit).scan t = (fetcher.scan t).raise limit ackTimerLimit := rfl

theorem drainAll_raise (t : σ) (higher : fetcher.limit.toNat ≤ limit.toNat)
    (higher' : fetcher.ackTimerLimit.toNat ≤ ackTimerLimit.toNat)
    (unlimited : (fetcher.drainAll t).report.reason.isLimit = false) :
    (fetcher.raise limit ackTimerLimit).drainAll t = fetcher.drainAll t := by
  rcases fetcher.limit_cases with nothing | allowed
  · rw [drainAll_of_limit_zero t nothing] at unlimited
    cases unlimited
  · obtain ⟨k, reason, ends, goesOn, scanned⟩ := fetcher.exists_run t allowed
    rw [scanned] at unlimited ⊢
    obtain ⟨kind, ends'⟩ := ends.raise unlimited limit ackTimerLimit
    have allowed' : 0 < limit.toNat := by omega
    have scanned' : (fetcher.raise limit ackTimerLimit).drainAll t = _ :=
      drainAll_eq_run ends' (goesOn.raise higher higher') allowed'
    rw [scanned', scan_raise, Scan.run_raise _ kind]
    rfl

theorem counts_le_raise (t : σ) (higher : fetcher.limit.toNat ≤ limit.toNat)
    (higher' : fetcher.ackTimerLimit.toNat ≤ ackTimerLimit.toNat) :
    let report := (fetcher.drainAll t).report
    let report' := ((fetcher.raise limit ackTimerLimit).drainAll t).report
    report.requestsSent ≤ report'.requestsSent ∧ report.ackTimersScheduled ≤ report'.ackTimersScheduled ∧
      report.immediateReissues ≤ report'.immediateReissues := by
  intro report report'
  rcases fetcher.limit_cases with nothing | allowed
  · have none : report = ⟨.loopLimit 0, 0, 0, 0⟩ := congrArg DrainRun.report (drainAll_of_limit_zero t nothing)
    rw [none]
    exact ⟨Nat.zero_le _, Nat.zero_le _, Nat.zero_le _⟩
  · have allowed' : 0 < limit.toNat := by omega
    obtain ⟨k, reason, -, goesOn, scanned⟩ := fetcher.exists_run t allowed
    obtain ⟨k', reason', ends', -, scanned'⟩ := (fetcher.raise limit ackTimerLimit).exists_run t allowed'
    have further : k ≤ k' := by
      apply Nat.le_of_not_lt
      intro earlier
      exact goesOn.raise higher higher' k' earlier reason' ends'
    have counts : report = (fetcher.scan t).report k reason := congrArg DrainRun.report scanned
    have counts' : report' = (fetcher.scan t).report k' reason' := congrArg DrainRun.report scanned'
    rw [counts, counts']
    exact ⟨Nat.succ_le_succ further, Scan.timers_mono _ further, Scan.others_mono _ further⟩

/-- Where a drain ends can be computed, reply by reply. -/
theorem drainAll_of_endAt? (fetcher : Fetcher) (t : σ) (allowed : 0 < fetcher.limit.toNat) (k : Nat)
    (reason : StopReason) (before : ∀ j < k, (fetcher.scan t).endAt? j = none)
    (last : (fetcher.scan t).endAt? k = some reason) :
    fetcher.drainAll t = (fetcher.scan t).run (Transport.after t fetcher.request (k + 1)) k reason := by
  refine drainAll_eq_run ((Scan.ends_iff allowed).mpr last) (fun j below reason ends => ?_) allowed
  have found := (Scan.ends_iff allowed).mp ends
  rw [before j below] at found
  cases found

/--
Limits that are raised show only in drains that ran into one of them. Any other drain over a script comes to the
same as before: it reports the same, sends the same requests, leaves the same of the script, and takes the same
time. A drain that a limit ended sends as many requests as before or more, and likewise for its waits and for the
requests that it sends again at once. The counts of both fit in 32 bits if the higher limits allow no more GETs than
that.
-/
theorem raised_limits (fetcher : Fetcher) (script : Script) (limit ackTimerLimit : UInt32)
    (higher : fetcher.limit ≤ limit) (higher' : fetcher.ackTimerLimit ≤ ackTimerLimit) :
    let run := fetcher.drainAll script
    let run' := (fetcher.raise limit ackTimerLimit).drainAll script
    (if run.report.reason.isLimit then
        run.report.requestsSent ≤ run'.report.requestsSent ∧
          run.report.ackTimersScheduled ≤ run'.report.ackTimersScheduled ∧
          run.report.immediateReissues ≤ run'.report.immediateReissues
      else run' = run) ∧
      (limit.toNat * (ackTimerLimit.toNat + 1) < UInt32.size → run.report.Fits ∧ run'.report.Fits) := by
  intro run run'
  have higher := UInt32.le_iff_toNat_le.mp higher
  have higher' := UInt32.le_iff_toNat_le.mp higher'
  constructor
  · split
    · exact counts_le_raise script higher higher'
    · next unlimited => exact drainAll_raise script higher higher' (Bool.eq_false_iff.mpr unlimited)
  · intro small
    have fewer : fetcher.limit.toNat * (fetcher.ackTimerLimit.toNat + 1) ≤
        limit.toNat * (ackTimerLimit.toNat + 1) := Nat.mul_le_mul higher (Nat.succ_le_succ higher')
    exact ⟨Stage.fits_drainAll fetcher script (Nat.lt_of_le_of_lt fewer small),
      Stage.fits_drainAll (fetcher.raise limit ackTimerLimit) script small⟩

/-- One more wait lets a drain end that ran into its limit, and after that more limits change nothing. -/
theorem raised_limits_of_wait :
    let fetcher : Fetcher :=
      ⟨⟨.queuedMessage, .statusMessages⟩, .queuedMessage 1 .zero .queuedMessage .advisory, 2, 0⟩
    let other : Reply := ⟨.ok (.ack .statusMessages none), .zero⟩
    let timer : Reply := ⟨.ok (.ackTimer .queuedMessage (.ofMillis 100)), .ofMillis 5⟩
    let last : Reply := ⟨.ok (.nack .queuedMessage .unknownPid), .ofMillis 20⟩
    let script : Script := .ofReplies [other, timer, other, last]
    (fetcher.limit ≤ 2 ∧ fetcher.ackTimerLimit ≤ 1 ∧
        (fetcher.drainAll script).report = ⟨.ackTimerLimit 0, 2, 0, 1⟩ ∧
        2 ≤ ((fetcher.raise 2 1).drainAll script).report.requestsSent) ∧
      ((fetcher.raise 2 1).drainAll script).report = ⟨.noQueuedMessages, 4, 1, 2⟩ ∧
      ((fetcher.raise 2 1).raise 7 3).drainAll script = (fetcher.raise 2 1).drainAll script := by
  intro fetcher other timer last script
  have limited : (fetcher.drainAll script).report = ⟨.ackTimerLimit 0, 2, 0, 1⟩ := by
    rw [drainAll_of_endAt? fetcher script (by decide) 1 (.ackTimerLimit 0) (by decide) (by decide)]
    decide
  have drained : ((fetcher.raise 2 1).drainAll script).report = ⟨.noQueuedMessages, 4, 1, 2⟩ := by
    rw [drainAll_of_endAt? (fetcher.raise 2 1) script (by decide) 3 .noQueuedMessages (by decide) (by decide)]
    decide
  have further := (raised_limits fetcher script 2 1 (by decide) (by decide)).1
  have same := (raised_limits (fetcher.raise 2 1) script 7 3 (by decide) (by decide)).1
  simp only [limited, StopReason.isLimit, if_true] at further
  simp only [drained, StopReason.isLimit, Bool.false_eq_true, if_false] at same
  exact ⟨⟨by decide, by decide, limited, further.1⟩, drained, same⟩

end Fetcher

end Conformance
