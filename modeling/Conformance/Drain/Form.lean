import Conformance.Drain.Basic
import Conformance.Response.Form

/-!
The JSON forms of stop reasons and drain reports.
-/

namespace Conformance

open Json

instance : JsonForm StopReason where
  encode
    | .noQueuedMessages => .str "NoQueuedMessages"
    | .emptyStatusMessages => .str "EmptyStatusMessages"
    | .transportError text => .obj [("TransportError", .str text)]
    | .protocolError code => .obj [("ProtocolError", encode code)]
    | .loopLimit limit => .obj [("LoopLimit", encode limit)]
    | .ackTimerLimit limit => .obj [("AckTimerLimit", encode limit)]
    | .stalled => .str "Stalled"
  decode? j :=
    match variant? j with
    | some ("NoQueuedMessages", content) => if isEmptyContent content then some .noQueuedMessages else none
    | some ("EmptyStatusMessages", content) =>
      if isEmptyContent content then some .emptyStatusMessages else none
    | some ("TransportError", some content) => (decode? content).map .transportError
    | some ("ProtocolError", some content) => (decode? content).map .protocolError
    | some ("LoopLimit", some content) => (decode? content).map .loopLimit
    | some ("AckTimerLimit", some content) => (decode? content).map .ackTimerLimit
    | some ("Stalled", content) => if isEmptyContent content then some .stalled else none
    | _ => none

instance : JsonForm DrainReport where
  encode r :=
    .obj [("reason", encode r.reason), ("requests_sent", .ofNat r.requestsSent),
      ("ack_timers_scheduled", .ofNat r.ackTimersScheduled),
      ("immediate_reissues", .ofNat r.immediateReissues)]
  decode? j :=
    match fields? ["reason", "requests_sent", "ack_timers_scheduled", "immediate_reissues"] j with
    | some [reason, sent, scheduled, reissues] => do
      some ⟨← required? reason, ← sent.bind (natBelow? UInt32.size), ← scheduled.bind (natBelow? UInt32.size),
        ← reissues.bind (natBelow? UInt32.size)⟩
    | _ => none

end Conformance
