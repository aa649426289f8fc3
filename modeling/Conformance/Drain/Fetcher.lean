import Conformance.Drain.Session
import Conformance.Transport.Basic

/-!
Draining a responder over a transport. The fetcher carries out the actions of a session: it sends the
GETs, waits out the ACK_TIMERs, and tells the session of each completion until it ends. A session can
only go on for so long: `Session.rank` descends with every completion.
-/

namespace Conformance

/-- Something the session waits for: the response to a GET, or the end of an ACK_TIMER. -/
inductive Pending where
  | response
  | ackTimer (delay : Span)
deriving DecidableEq

namespace Pending

/-- A timer that ends can lead to a GET, a response to nothing more than a next action. -/
def weight : Pending → Nat
  | .response => 1
  | .ackTimer _ => 2

def weightOf : List Pending → Nat
  | [] => 0
  | p :: rest => p.weight + weightOf rest

theorem weightOf_append (pending pending' : List Pending) :
    weightOf (pending ++ pending') = weightOf pending + weightOf pending' := by
  induction pending with
  | nil => simp [weightOf]
  | cons p rest ih => rw [List.cons_append, weightOf, weightOf, ih, Nat.add_assoc]

end Pending

namespace Action

def pending : Action → List Pending
  | .fetch => [.response]
  | .scheduleAckTimer delay => [.ackTimer delay]
  | .wait => []
  | .stop _ => []

end Action

/-- A session under way over a transport of state `σ`; time is in nanoseconds since its start. -/
structure Flight (σ : Type) where
  session : Session
  pending : List Pending
  transport : σ
  elapsed : Nat
  events : Array Event

structure DrainRun (σ : Type) where
  report : DrainReport
  transport : σ
  elapsed : Nat
  events : Array Event

structure Fetcher where
  parameters : QueueParameters
  request : GetRequest
  limit : UInt32
  ackTimerLimit : UInt32

namespace Session

/-- What is left of the two limits, and of the completions that are still to come. -/
def rank (s : Session) (weight : Nat) : Nat × Nat × Nat :=
  (s.ackTimerLimit.toNat - s.ackTimersScheduled, s.limit.toNat - s.counter, weight)

/-- Whether one rank comes before another: the first part that differs is less. -/
def Descends : Nat × Nat × Nat → Nat × Nat × Nat → Prop := Prod.Lex (· < ·) (Prod.Lex (· < ·) (· < ·))

theorem descends_of_ackTimers {a b c a' b' c' : Nat} (h : a < a') : Descends (a, b, c) (a', b', c') :=
  Prod.Lex.left _ _ h

theorem descends_of_counter {a b c a' b' c' : Nat} (h : a ≤ a') (h' : b < b') :
    Descends (a, b, c) (a', b', c') := by
  rcases Nat.lt_or_eq_of_le h with less | rfl
  · exact Prod.Lex.left _ _ less
  · exact Prod.Lex.right _ (Prod.Lex.left _ _ h')

theorem descends_of_weight {a b c a' b' c' : Nat} (h : a ≤ a') (h' : b ≤ b') (h'' : c < c') :
    Descends (a, b, c) (a', b', c') := by
  rcases Nat.lt_or_eq_of_le h' with less | rfl
  · exact descends_of_counter h less
  · rcases Nat.lt_or_eq_of_le h with less | rfl
    · exact Prod.Lex.left _ _ less
    · exact Prod.Lex.right _ (Prod.Lex.right _ h'')

theorem descends_finish (s : Session) (reason : StopReason) (w : Nat) :
    Descends ((s.finish reason).session.rank (w + Pending.weightOf (s.finish reason).action.pending))
      (s.rank (w + 1)) := by
  rw [finish]
  split
  · exact descends_of_weight (Nat.le_refl _) (Nat.le_refl _) (Nat.lt_succ_self w)
  · exact descends_of_weight (Nat.le_refl _) (Nat.le_refl _) (Nat.lt_succ_self w)

theorem descends_reissue (s : Session) (w : Nat) :
    Descends (s.reissue.session.rank (w + Pending.weightOf s.reissue.action.pending)) (s.rank (w + 1)) := by
  rw [reissue]
  split
  · exact descends_of_weight (Nat.le_refl _) (Nat.sub_le_sub_left (Nat.le_succ _) _) (Nat.lt_succ_self w)
  · next below =>
    refine descends_of_counter (Nat.le_refl _) ?_
    simp only [fetch] at below ⊢
    omega

theorem descends_takeAckTimer (s : Session) (delay : Span) (w : Nat) :
    Descends ((s.takeAckTimer delay).session.rank (w + Pending.weightOf (s.takeAckTimer delay).action.pending))
      (s.rank (w + 1)) := by
  rw [takeAckTimer]
  split
  · exact descends_of_weight (Nat.le_refl _) (Nat.le_refl _) (Nat.lt_succ_self w)
  · next below =>
    refine descends_of_ackTimers ?_
    simp only
    omega

theorem descends_onCompleted (s : Session) (r : Response) (w : Nat) :
    Descends ((s.onCompleted r).session.rank (w + Pending.weightOf (s.onCompleted r).action.pending))
      (s.rank (w + 1)) := by
  rw [onCompleted]
  split
  · exact descends_takeAckTimer s _ w
  · split
    · exact descends_finish s _ w
    · split
      · dsimp only
        split <;> exact descends_finish s _ w
      · exact descends_reissue s w

theorem descends_onResponse (s : Session) (result : GetResult) (w : Nat) :
    Descends ((s.onResponse result).session.rank (w + Pending.weightOf (s.onResponse result).action.pending))
      (s.rank (w + 1)) := by
  rw [onResponse]
  split
  · exact descends_of_weight (Nat.le_refl _) (Nat.le_refl _) (Nat.lt_succ_self w)
  · cases result with
    | error error => exact descends_finish { s with phase := .draining } _ w
    | ok r =>
      dsimp only
      split
      · exact descends_onCompleted { s with phase := .draining } r w
      · exact descends_finish { s with phase := .draining } _ w

theorem descends_onAckTimerExpired (s : Session) (w : Nat) :
    Descends (s.onAckTimerExpired.session.rank (w + Pending.weightOf s.onAckTimerExpired.action.pending))
      (s.rank (w + 2)) := by
  rw [onAckTimerExpired]
  split
  · exact descends_of_weight (Nat.le_refl _) (Nat.le_refl _) (by show w + 0 < w + 2; omega)
  · dsimp only
    split
    · exact descends_of_weight (Nat.le_refl _) (Nat.le_refl _) (by show w + 0 < w + 2; omega)
    · exact descends_of_weight (Nat.le_refl _) (Nat.le_refl _) (by show w + 1 < w + 2; omega)

end Session

namespace Flight

variable {σ : Type}

/-- Delivers the completion that came first, with what the session makes of it. -/
def deliver [Transport σ] (fetcher : Fetcher) (f : Flight σ) (completion : Pending) (rest : List Pending) :
    Action × Flight σ :=
  match completion with
  | .response =>
    let (reception, transport) := Transport.get f.transport fetcher.request
    let t := f.session.onResponse reception.result
    (t.action,
      { session := t.session, pending := rest, transport, elapsed := f.elapsed + reception.latency
        events := f.events ++ reception.remarks.map Event.remark ++ t.events })
  | .ackTimer delay =>
    let t := f.session.onAckTimerExpired
    (t.action,
      { f with
        session := t.session, pending := rest, elapsed := f.elapsed + delay.sleepNanos
        events := f.events ++ t.events })

def land (f : Flight σ) (reason : StopReason) : DrainRun σ :=
  let report := f.session.report reason
  ⟨report, f.transport, f.elapsed, f.events.push (.drainFinished report)⟩

theorem descends_deliver [Transport σ] (fetcher : Fetcher) (f : Flight σ) (completion : Pending)
    (rest : List Pending) :
    Session.Descends
      ((f.deliver fetcher completion rest).2.session.rank
        (Pending.weightOf ((f.deliver fetcher completion rest).2.pending ++
          (f.deliver fetcher completion rest).1.pending)))
      (f.session.rank (Pending.weightOf (completion :: rest))) := by
  rw [Pending.weightOf_append, show Pending.weightOf (completion :: rest) =
    Pending.weightOf rest + completion.weight by simp [Pending.weightOf, Nat.add_comm]]
  cases completion with
  | response => exact Session.descends_onResponse f.session _ _
  | ackTimer delay => exact Session.descends_onAckTimerExpired f.session _

/--
Carries out an action and all that follow it. What completes is delivered in the order in which it
was begun; at most one thing is ever pending, so no other order is possible.
-/
def drive [Transport σ] (fetcher : Fetcher) (action : Action) (f : Flight σ) : DrainRun σ :=
  match action with
  | .stop reason => f.land reason
  | action =>
    match _queue : f.pending ++ action.pending with
    | [] => { f with events := f.events.push .nothingPending }.land .stalled
    | completion :: rest =>
      let next := f.deliver fetcher completion rest
      drive fetcher next.1 next.2
termination_by f.session.rank (Pending.weightOf (f.pending ++ action.pending))
decreasing_by
  rw [_queue]
  exact descends_deliver fetcher f completion rest

end Flight

namespace Fetcher

/-- The fetcher for the responder of the given UID, which is asked for advisories and worse. -/
def new (universeId : UInt32) (uid : Uid) (catalog : Catalog) (limit ackTimerLimit : UInt32) :
    Except String Fetcher :=
  match QueueParameters.ofCatalog catalog with
  | .error name => .error name
  | .ok parameters =>
    .ok ⟨parameters, .queuedMessage universeId uid parameters.queuedMessage .advisory, limit, ackTimerLimit⟩

def drainAll [Transport σ] (fetcher : Fetcher) (transport : σ) : DrainRun σ :=
  let t := (Session.new fetcher.parameters fetcher.limit fetcher.ackTimerLimit).start
  Flight.drive fetcher t.action
    { session := t.session, pending := [], transport, elapsed := 0, events := t.events.toArray }

end Fetcher

end Conformance
