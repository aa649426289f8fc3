import Conformance.Drain.Basic
import Conformance.Remark
import Conformance.Run.Summary
import Conformance.TestState
import Conformance.Text.Quoted
import Conformance.Transport.Basic

/-!
The log of the suite as a list of events. An event says what happened; `level`, `message` and
`fields` give its line in the log. Remarks come from transports and test bodies, everything else
from the suite itself.
-/

namespace Conformance

inductive Event where
  | remark (remark : Remark)
  | propertySetAgain (property : String)
  | propertyUndeclared (property : String)
  | testRegistered (test : String)
  | graphBuilt (nodes edges : Nat)
  | cycleUnscheduled (nodes : List Nat)
  | loopLimitHit (limit : UInt32)
  | ackTimerLimitHit (limit : UInt32)
  | transportFailed (error : TransportError)
  | responseFailed (code : ResponseCode)
  | ackTimerSet (delay : Span)
  | emptyButQueued (queued : UInt8)
  | stopDeferred (outstanding : Nat) (reason : StopReason)
  | nothingPending
  | drainFinished (report : DrainReport)
  | unknownTest (test : String)
  | orderDecided (tests : List String)
  | testStarted (stamped : Bool) (test description : String)
  | notDrained (test : String) (reason : StopReason)
  | brokenAfterInit (test : String)
  | propertyMissing (test property : String)
  | testFinished (stamped : Bool) (test : String) (state : TestState)
  | runComplete (summary : RunSummary)
deriving DecidableEq

namespace Event

def level : Event → Level
  | .remark r => r.level
  | .cycleUnscheduled _ => .error
  | .loopLimitHit _ => .error
  | .ackTimerLimitHit _ => .error
  | .transportFailed _ => .error
  | .responseFailed _ => .error
  | .emptyButQueued _ => .error
  | .nothingPending => .error
  | .unknownTest _ => .error
  | .propertySetAgain _ => .warn
  | .notDrained _ _ => .warn
  | .testFinished _ _ _ => .info
  | .runComplete _ => .info
  | _ => .debug

/-- What stands for the time of writing at the head of a stamped line. -/
def stamp (stamped : Bool) : String := if stamped then "<timestamp> " else ""

def message : Event → String
  | .remark r => r.message
  | .propertySetAgain property => s!"Multiple sets of property {property}"
  | .propertyUndeclared _ => "Property set but not declared by any test"
  | .testRegistered _ => "Test registered"
  | .graphBuilt _ _ => "Dependency graph built"
  | .cycleUnscheduled _ => "Dependency cycle left tests unscheduled"
  | .loopLimitHit limit => s!"Queued message hit loop limit of {limit.toNat}"
  | .ackTimerLimitHit limit => s!"Queued message hit ACK TIMER limit of {limit.toNat}"
  | .transportFailed error => s!"Error: {error.message}"
  | .responseFailed code => s!"Error: {code.display}"
  | .ackTimerSet delay => s!"Got ACK TIMER set to {delay.toMillis} ms"
  | .emptyButQueued queued =>
    s!"Got a empty status message but the queued message count is {queued.toNat}"
  | .stopDeferred _ _ => "Deferring drain stop until ACK timers resolve"
  | .nothingPending => "Queued message drain has nothing left to wait on"
  | .drainFinished _ => "Queued message drain finished"
  | .unknownTest test => s!"Test {test} doesn't exist, skipping"
  | .orderDecided tests => "Test order is " ++ Text.bracketed (tests.map Text.quoted)
  | .testStarted stamped test description => stamp stamped ++ test ++ ": " ++ description
  | .notDrained test _ => s!"Queued messages not drained before {test}"
  | .brokenAfterInit test => s!"{test}: Test broken after init, skipping test."
  | .propertyMissing test property => s!"{test}: Property: {property} not found, skipping test."
  | .testFinished stamped test state => stamp stamped ++ test ++ ": " ++ state.display
  | .runComplete _ => "Run complete"

def fields : Event → List (String × String)
  | .remark r => r.fields
  | .propertySetAgain property => [("property", property)]
  | .propertyUndeclared property => [("property", property)]
  | .testRegistered test => [("test", test)]
  | .graphBuilt nodes edges => [("nodes", toString nodes), ("edges", toString edges)]
  | .cycleUnscheduled nodes => [("unscheduled", Text.bracketed (nodes.map toString))]
  | .loopLimitHit limit => [("limit", toString limit.toNat)]
  | .ackTimerLimitHit limit => [("limit", toString limit.toNat)]
  | .transportFailed error => [("error", error.message)]
  | .responseFailed code => [("code", code.name)]
  | .ackTimerSet delay => [("delay_ms", toString (delay.toMillis % UInt64.size))]
  | .emptyButQueued queued => [("queued", toString queued.toNat)]
  | .stopDeferred outstanding reason =>
    [("outstanding", toString outstanding), ("reason", reason.display)]
  | .nothingPending => []
  | .drainFinished report =>
    [("reason", report.reason.display), ("requests", toString report.requestsSent),
      ("ack_timers", toString report.ackTimersScheduled)]
  | .unknownTest test => [("test", test)]
  | .orderDecided _ => []
  | .testStarted _ test _ => [("test", test)]
  | .notDrained test reason => [("test", test), ("reason", reason.display)]
  | .brokenAfterInit test => [("test", test)]
  | .propertyMissing test property => [("test", test), ("property", property)]
  | .testFinished _ test state => [("test", test), ("state", state.display)]
  | .runComplete summary =>
    [("total", toString summary.total), ("passed", toString summary.passed),
      ("failed", toString summary.failed), ("broken", toString summary.broken),
      ("not_run", toString summary.notRun)]

def shows (level : Level) (event : Event) : Bool := event.level.rank ≤ level.rank

end Event

end Conformance
