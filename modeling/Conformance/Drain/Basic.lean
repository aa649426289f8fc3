import Conformance.Response.Basic

/-!
Why and how a drain of queued messages ended.
-/

namespace Conformance

inductive StopReason where
  | noQueuedMessages
  | emptyStatusMessages
  | transportError (text : String)
  | protocolError (code : ResponseCode)
  | loopLimit (limit : UInt32)
  | ackTimerLimit (limit : UInt32)
  | stalled
deriving DecidableEq, Inhabited

namespace StopReason

/-- Whether the responder is known to have no queued message left. -/
def isDrained : StopReason → Bool
  | .noQueuedMessages => true
  | .emptyStatusMessages => true
  | _ => false

def display : StopReason → String
  | .noQueuedMessages => "no queued messages"
  | .emptyStatusMessages => "empty status messages"
  | .transportError text => s!"transport error: {text}"
  | .protocolError code => s!"protocol error: {code.display}"
  | .loopLimit limit => s!"loop limit of {limit.toNat} reached"
  | .ackTimerLimit limit => s!"ACK TIMER limit of {limit.toNat} reached"
  | .stalled => "stalled"

end StopReason

structure DrainReport where
  reason : StopReason
  requestsSent : Nat
  ackTimersScheduled : Nat
  immediateReissues : Nat
deriving DecidableEq, Inhabited

end Conformance
