import Conformance.Drain.Fetcher
import Conformance.Transport.Script

/-!
# Replies and what a drain makes of them

Every reply to a drain is of one of three classes: it ends the drain, it asks for a wait, or it is
neither and the GET is sent again. `onResponse_eq` reads the session off that class, and
`drive_fetch` and `drive_scheduleAckTimer` do the same for the loop around the session.
-/

namespace Conformance

/-- What a reply means to a drain. -/
inductive ReplyClass where
  | terminal (reason : StopReason)
  | timer (delay : Span)
  | other
deriving DecidableEq

namespace ReplyClass

def isTimer : ReplyClass → Bool
  | .timer _ => true
  | _ => false

def isOther : ReplyClass → Bool
  | .other => true
  | _ => false

/-- The time that is slept because of the reply, if its wait is accepted. -/
def wait : ReplyClass → Nat
  | .timer delay => delay.sleepNanos
  | _ => 0

end ReplyClass

namespace QueueParameters

/-- The class of a reply: first failures, then waits, then the two ways to say that nothing is queued. -/
def classify (p : QueueParameters) : GetResult → ReplyClass
  | .error error => .terminal (.transportError error.message)
  | .ok r =>
    if r.code ≠ .completedOk then .terminal (.protocolError r.code)
    else
      match r.type with
      | .ackTimer delay => .timer delay
      | .nack reason =>
        if reason = .unknownPid ∧ r.commandClass = .getResponse ∧ r.pid = p.queuedMessage then
          .terminal .noQueuedMessages
        else .other
      | .ack =>
        match r.payload with
        | some (.statusMessages []) =>
          if r.commandClass = .getResponse ∧ r.pid = p.statusMessages then .terminal .emptyStatusMessages
          else .other
        | _ => .other

/-- The reasons that a reply can give for the end of a drain. -/
theorem terminal_cases {p : QueueParameters} {result : GetResult} {reason : StopReason}
    (ends : p.classify result = .terminal reason) :
    (∃ text, reason = .transportError text) ∨ (∃ code, reason = .protocolError code) ∨
      reason = .noQueuedMessages ∨ reason = .emptyStatusMessages := by
  unfold classify at ends
  repeat' split at ends
  all_goals cases ends
  all_goals simp

end QueueParameters

/-- What the log says about a reply that ends a drain. -/
def GetResult.complaints : GetResult → List Event
  | .error error => [.transportFailed error]
  | .ok r =>
    if r.code ≠ .completedOk then [.responseFailed r.code]
    else if r.type = .ack ∧ 0 < r.queuedMessages then [.emptyButQueued r.queuedMessages]
    else []

namespace Session

theorem isUnknownQueuedMessage_iff (s : Session) (r : Response) :
    s.isUnknownQueuedMessage r = true ↔
      r.type = .nack .unknownPid ∧ r.commandClass = .getResponse ∧ r.pid = s.parameters.queuedMessage := by
  have nacked : r.nackReason? = some .unknownPid ↔ r.type = .nack .unknownPid := by
    unfold Response.nackReason?
    cases r.type <;> simp
  simp only [isUnknownQueuedMessage, Bool.and_eq_true, beq_iff_eq, nacked, and_assoc]

theorem isEmptyStatusMessages_iff (s : Session) (r : Response) :
    s.isEmptyStatusMessages r = true ↔
      r.type = .ack ∧ r.commandClass = .getResponse ∧ r.pid = s.parameters.statusMessages ∧
        r.payload = some (.statusMessages []) := by
  unfold isEmptyStatusMessages Response.statusMessages?
  cases r.payload with
  | none => simp
  | some payload => cases payload <;> simp [Payload.statusMessages?, and_assoc]

theorem onCompleted_eq (s : Session) (r : Response) (completed : r.code = .completedOk) :
    s.onCompleted r =
      match s.parameters.classify (.ok r) with
      | .terminal reason =>
        { s.finish reason with events := GetResult.complaints (.ok r) ++ (s.finish reason).events }
      | .timer delay => s.takeAckTimer delay
      | .other => s.reissue := by
  unfold onCompleted
  cases kind : r.type with
  | ackTimer delay => simp [QueueParameters.classify, completed, kind]
  | nack reason =>
    have notEmpty : s.isEmptyStatusMessages r = false := by
      rw [Bool.eq_false_iff, ne_eq, isEmptyStatusMessages_iff]
      simp [kind]
    by_cases unknown : s.isUnknownQueuedMessage r = true
    · have shape := (isUnknownQueuedMessage_iff s r).mp unknown
      rw [kind] at shape
      simp [QueueParameters.classify, GetResult.complaints, completed, kind, unknown, shape]
    · have shape := mt (isUnknownQueuedMessage_iff s r).mpr unknown
      rw [kind] at shape
      simp only [ResponseType.nack.injEq] at shape
      simp [QueueParameters.classify, completed, kind, notEmpty, unknown, shape]
  | ack =>
    have notUnknown : s.isUnknownQueuedMessage r = false := by
      rw [Bool.eq_false_iff, ne_eq, isUnknownQueuedMessage_iff]
      simp [kind]
    by_cases empty : s.isEmptyStatusMessages r = true
    · obtain ⟨-, answers, status, payload⟩ := (isEmptyStatusMessages_iff s r).mp empty
      have terminal : s.parameters.classify (.ok r) = .terminal .emptyStatusMessages := by
        simp [QueueParameters.classify, completed, kind, answers, status, payload]
      by_cases queued : 0 < r.queuedMessages <;>
        simp [terminal, GetResult.complaints, completed, kind, notUnknown, empty, queued]
    · have shape := mt (isEmptyStatusMessages_iff s r).mpr empty
      have other : s.parameters.classify (.ok r) = .other := by
        simp only [QueueParameters.classify, completed, kind]
        simp only [kind, true_and] at shape
        split
        · simp_all
        · split <;> simp_all
      simp [other, notUnknown, empty]

/-- What a session that is under way makes of a reply, by the class of the reply. -/
theorem onResponse_eq (s : Session) (result : GetResult) (underway : s.isTerminated = false) :
    s.onResponse result =
      match s.parameters.classify result with
      | .terminal reason =>
        let t := { s with phase := .draining }.finish reason
        { t with events := result.complaints ++ t.events }
      | .timer delay => { s with phase := .draining }.takeAckTimer delay
      | .other => { s with phase := .draining }.reissue := by
  unfold onResponse
  simp only [underway, Bool.false_eq_true, if_false]
  cases result with
  | error error => rfl
  | ok r =>
    by_cases completed : r.code = .completedOk
    · have isOk : r.code.isOk = true := by rw [completed]; rfl
      simp only [isOk, if_true]
      exact onCompleted_eq { s with phase := .draining } r completed
    · have notOk : r.code.isOk = false := by simpa [ResponseCode.isOk] using completed
      simp [QueueParameters.classify, GetResult.complaints, completed, notOk]

end Session

namespace Flight

variable {σ : Type} [Transport σ]

theorem drive_stop (fetcher : Fetcher) (reason : StopReason) (f : Flight σ) :
    drive fetcher (.stop reason) f = f.land reason := by
  rw [drive]

theorem drive_fetch (fetcher : Fetcher) (f : Flight σ) (idle : f.pending = []) :
    drive fetcher .fetch f =
      drive fetcher (f.deliver fetcher .response []).1 (f.deliver fetcher .response []).2 := by
  rw [drive, idle]
  · simp only [Action.pending, List.nil_append]
  · intro reason stops
    cases stops

theorem drive_scheduleAckTimer (fetcher : Fetcher) (delay : Span) (f : Flight σ) (idle : f.pending = []) :
    drive fetcher (.scheduleAckTimer delay) f =
      drive fetcher (f.deliver fetcher (.ackTimer delay) []).1 (f.deliver fetcher (.ackTimer delay) []).2 := by
  rw [drive, idle]
  · simp only [Action.pending, List.nil_append]
  · intro reason stops
    cases stops

end Flight

end Conformance
