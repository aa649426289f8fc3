import Conformance.Drain.Basic
import Conformance.Event
import Conformance.Parameter.Catalog

/-!
One drain of a responder's queued messages as a state machine. The session sends nothing itself: each
call tells it what happened, and it answers with the action that comes next. Two limits bound it, one
on GETs in a row without an ACK_TIMER between them and one on ACK_TIMERs.
-/

namespace Conformance

structure QueueParameters where
  queuedMessage : ParameterId
  statusMessages : ParameterId
deriving DecidableEq, Inhabited

namespace QueueParameters

/-- The parameters by their names in the catalog; fails with the first name that is not there. -/
def ofCatalog (catalog : Catalog) : Except String QueueParameters :=
  match catalog.getByName? "QUEUED_MESSAGE", catalog.getByName? "STATUS_MESSAGES" with
  | none, _ => .error "QUEUED_MESSAGE"
  | _, none => .error "STATUS_MESSAGES"
  | some queued, some status => .ok ⟨queued.id, status.id⟩

end QueueParameters

inductive Phase where
  | idle
  | awaitingResponse
  | draining
  | terminated (reason : StopReason)
deriving DecidableEq, Inhabited

/-- What has to be done next: send a GET, wake the session later, just wait, or end. -/
inductive Action where
  | fetch
  | scheduleAckTimer (delay : Span)
  | wait
  | stop (reason : StopReason)
deriving DecidableEq, Inhabited

structure Session where
  phase : Phase
  parameters : QueueParameters
  limit : UInt32
  ackTimerLimit : UInt32
  /-- GETs sent again at once since the start or the last ACK_TIMER. -/
  counter : Nat
  outstandingAckTimers : Nat
  requestsSent : Nat
  ackTimersScheduled : Nat
  immediateReissues : Nat
deriving DecidableEq, Inhabited

/-- What a call leads to: the next action, the session after the call, and the log of the call. -/
structure Transition where
  action : Action
  session : Session
  events : List Event

namespace Session

def new (parameters : QueueParameters) (limit ackTimerLimit : UInt32) : Session :=
  ⟨.idle, parameters, limit, ackTimerLimit, 0, 0, 0, 0, 0⟩

def isTerminated (s : Session) : Bool :=
  match s.phase with
  | .terminated _ => true
  | _ => false

def report (s : Session) (reason : StopReason) : DrainReport :=
  ⟨reason, s.requestsSent, s.ackTimersScheduled, s.immediateReissues⟩

/-- Ends the session, whatever it is waiting for. -/
def abort (s : Session) (reason : StopReason) : Transition :=
  ⟨.stop reason, { s with phase := .terminated reason }, []⟩

def fetch (s : Session) : Transition :=
  ⟨.fetch, { s with phase := .awaitingResponse, requestsSent := s.requestsSent + 1 }, []⟩

/-- Ends the session because of its limit on GETs in a row. -/
def hitLoopLimit (s : Session) : Transition :=
  { s.abort (.loopLimit s.limit) with events := [.loopLimitHit s.limit] }

/-- Sends the GET again at once, unless that makes too many in a row. -/
def reissue (s : Session) : Transition :=
  let s := { s with counter := s.counter + 1 }
  if s.limit.toNat ≤ s.counter then s.hitLoopLimit
  else { s with immediateReissues := s.immediateReissues + 1 }.fetch

/-- Ends the session, unless an ACK_TIMER is still to come. -/
def finish (s : Session) (reason : StopReason) : Transition :=
  if s.outstandingAckTimers = 0 then s.abort reason
  else ⟨.wait, s, [.stopDeferred s.outstandingAckTimers reason]⟩

/-- Takes on the wait that an ACK_TIMER asks for, unless there have been too many. -/
def takeAckTimer (s : Session) (delay : Span) : Transition :=
  if s.ackTimerLimit.toNat ≤ s.ackTimersScheduled then
    { s.abort (.ackTimerLimit s.ackTimerLimit) with events := [.ackTimerLimitHit s.ackTimerLimit] }
  else
    ⟨.scheduleAckTimer delay,
      { s with
        outstandingAckTimers := s.outstandingAckTimers + 1
        ackTimersScheduled := s.ackTimersScheduled + 1
        counter := 0 },
      [.ackTimerSet delay]⟩

/-- The refusal that says there is nothing queued. -/
def isUnknownQueuedMessage (s : Session) (r : Response) : Bool :=
  r.nackReason? == some .unknownPid && r.commandClass == .getResponse &&
    r.pid == s.parameters.queuedMessage

/-- The acknowledgement that carries no status message. -/
def isEmptyStatusMessages (s : Session) (r : Response) : Bool :=
  r.type == .ack && r.commandClass == .getResponse && r.pid == s.parameters.statusMessages &&
    match r.statusMessages? with
    | some messages => messages.isEmpty
    | none => false

/-- Sends the first GET of a session that has not started. -/
def start (s : Session) : Transition :=
  if s.phase = .idle then
    let s := { s with counter := 0 }
    if s.limit = 0 then s.hitLoopLimit else s.fetch
  else ⟨.wait, s, []⟩

def onCompleted (s : Session) (r : Response) : Transition :=
  match r.type with
  | .ackTimer delay => s.takeAckTimer delay
  | _ =>
    if s.isUnknownQueuedMessage r then s.finish .noQueuedMessages
    else if s.isEmptyStatusMessages r then
      let t := s.finish .emptyStatusMessages
      if 0 < r.queuedMessages then { t with events := .emptyButQueued r.queuedMessages :: t.events } else t
    else s.reissue

def onResponse (s : Session) (result : GetResult) : Transition :=
  if s.isTerminated then ⟨.wait, s, []⟩
  else
    let s := { s with phase := .draining }
    match result with
    | .error error =>
      let t := s.finish (.transportError error.message)
      { t with events := .transportFailed error :: t.events }
    | .ok r =>
      if r.code.isOk then s.onCompleted r
      else
        let t := s.finish (.protocolError r.code)
        { t with events := .responseFailed r.code :: t.events }

/-- Takes the end of an ACK_TIMER; a GET that is in flight already serves it. -/
def onAckTimerExpired (s : Session) : Transition :=
  if s.isTerminated then ⟨.wait, s, []⟩
  else
    let s := { s with outstandingAckTimers := s.outstandingAckTimers - 1 }
    if s.phase = .awaitingResponse then ⟨.wait, s, []⟩ else s.fetch

end Session

end Conformance
