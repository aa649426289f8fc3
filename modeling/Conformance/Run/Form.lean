import Conformance.Drain.Form
import Conformance.Json.Printer
import Conformance.Run.Outcome
import Conformance.Settings.Basic

/-!
The JSON forms of settings, records and outcomes. Settings may leave out fields, which then have
their defaults; as an array they may leave out the last ones.
-/

namespace Conformance

open Json

instance : JsonForm TestState := ⟨fun s => .str s.name, named? TestState.all TestState.name⟩

instance : JsonForm TestRecord where
  encode r :=
    .obj [("name", encode r.name), ("description", encode r.description), ("state", encode r.state),
      ("duration", encode r.duration), ("skip_reason", encode r.skipReason),
      ("warnings", encode r.warnings), ("drain", encode r.drain)]
  decode? j :=
    match fields? ["name", "description", "state", "duration", "skip_reason", "warnings", "drain"] j with
    | some [name, description, state, duration, skipReason, warnings, drain] => do
      some ⟨← required? name, ← required? description, ← required? state, ← required? duration,
        ← optional? decode? skipReason, ← required? warnings, ← optional? decode? drain⟩
    | _ => none

instance : JsonForm RunSummary where
  encode s :=
    .obj [("total", .ofNat s.total), ("passed", .ofNat s.passed), ("failed", .ofNat s.failed),
      ("broken", .ofNat s.broken), ("not_run", .ofNat s.notRun)]
  decode? j :=
    match fields? ["total", "passed", "failed", "broken", "not_run"] j with
    | some [total, passed, failed, broken, notRun] => do
      let count (field : Option Json) : Option Nat := field.bind (natBelow? UInt64.size)
      some ⟨← count total, ← count passed, ← count failed, ← count broken, ← count notRun⟩
    | _ => none

instance : JsonForm RunOutcome where
  encode o :=
    .obj [("started_at", encode o.startedAt), ("duration", encode o.duration), ("tests", encode o.tests),
      ("properties", .obj o.properties.entries), ("unknown_tests", encode o.unknownTests)]
  decode? j :=
    match fields? ["started_at", "duration", "tests", "properties", "unknown_tests"] j with
    | some [startedAt, duration, tests, some (.obj properties), unknownTests] => do
      some ⟨← required? startedAt, ← required? duration, ← required? tests, .ofList properties,
        ← required? unknownTests⟩
    | _ => none

namespace RunOutcome

def toText (o : RunOutcome) : String := (encode o).pretty

end RunOutcome

namespace Settings

def fieldNames : List String :=
  ["universe", "uid", "broadcast_write_delay_ms", "inter_test_delay_ms", "timestamp",
    "queued_message_limit", "ack_timer_limit"]

def field? [JsonForm α] (default : α) : Option Json → Option α
  | none => some default
  | some document => decode? document

end Settings

instance : JsonForm Settings where
  encode s :=
    .obj [("universe", encode s.universeId), ("uid", encode s.uid),
      ("broadcast_write_delay_ms", encode s.broadcastWriteDelayMs),
      ("inter_test_delay_ms", encode s.interTestDelayMs), ("timestamp", encode s.timestamp),
      ("queued_message_limit", encode s.queuedMessageLimit), ("ack_timer_limit", encode s.ackTimerLimit)]
  decode? j :=
    let columns := match j with
      | .arr items =>
        if items.length ≤ 7 then some (items.map some ++ List.replicate (7 - items.length) none) else none
      | document => fields? Settings.fieldNames document
    let d := Settings.default
    match columns with
    | some [universeId, uid, broadcastWriteDelayMs, interTestDelayMs, timestamp, queuedMessageLimit,
        ackTimerLimit] => do
      some ⟨← Settings.field? d.universeId universeId, ← Settings.field? d.uid uid,
        ← Settings.field? d.broadcastWriteDelayMs broadcastWriteDelayMs,
        ← Settings.field? d.interTestDelayMs interTestDelayMs, ← Settings.field? d.timestamp timestamp,
        ← Settings.field? d.queuedMessageLimit queuedMessageLimit,
        ← Settings.field? d.ackTimerLimit ackTimerLimit⟩
    | _ => none

end Conformance
