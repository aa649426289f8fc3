import Conformance.Proofs.Drain.Counters
import Conformance.Proofs.Json.Records
import Conformance.Run.Form
import Conformance.Timing.Form

/-!
# Saved outcomes read back

Saved settings, response times and outcomes stand for the values that they were made from. Counts are words in a
document, so a record with counts reads back if its counts fit into these (`Fits`).
-/

namespace Conformance

open Json

instance : LawfulJsonForm TestState := ⟨fun state => by cases state <;> rfl⟩

instance : LawfulJsonForm StopReason where
  decode_encode reason := by
    cases reason with
    | noQueuedMessages | emptyStatusMessages | stalled => rfl
    | transportError text => exact map_decode?_encode StopReason.transportError text
    | protocolError code => exact map_decode?_encode StopReason.protocolError code
    | loopLimit limit => exact map_decode?_encode StopReason.loopLimit limit
    | ackTimerLimit limit => exact map_decode?_encode StopReason.ackTimerLimit limit

theorem Json.count_ofNat {bound n : Nat} (below : n < bound) : (some (ofNat n)).bind (natBelow? bound) = some n :=
  natBelow?_ofNat below

namespace DrainReport

variable {r : DrainReport}

theorem Fits.read_back (fits : r.Fits) : decode? (encode r) = some r := by
  show (do
    some (⟨← required? (some (encode r.reason)), ← (some (ofNat r.requestsSent)).bind (natBelow? UInt32.size),
      ← (some (ofNat r.ackTimersScheduled)).bind (natBelow? UInt32.size),
      ← (some (ofNat r.immediateReissues)).bind (natBelow? UInt32.size)⟩ : DrainReport)) = some r
  simp only [required?_encode, count_ofNat fits.requestsSent, count_ofNat fits.ackTimersScheduled,
    count_ofNat fits.immediateReissues]
  rfl

end DrainReport

namespace TestRecord

def Fits (r : TestRecord) : Prop := ∀ report, r.drain = some report → report.Fits

variable {r : TestRecord}

theorem Fits.read_back (fits : r.Fits) : decode? (encode r) = some r := by
  have skipReason : optional? decode? (some (encode r.skipReason)) = some r.skipReason :=
    optional?_encode fun _ _ => ⟨Json.noConfusion, decode?_encode _⟩
  have drain : optional? decode? (some (encode r.drain)) = some r.drain :=
    optional?_encode fun report same => ⟨Json.noConfusion, (fits report same).read_back⟩
  show (do
    some (⟨← required? (some (encode r.name)), ← required? (some (encode r.description)),
      ← required? (some (encode r.state)), ← required? (some (encode r.duration)),
      ← optional? decode? (some (encode r.skipReason)), ← required? (some (encode r.warnings)),
      ← optional? decode? (some (encode r.drain))⟩ : TestRecord)) = some r
  simp only [required?_encode, skipReason, drain]
  rfl

end TestRecord

namespace RunSummary

/-- The counts of tests are words of 64 bits in their document. -/
structure Fits (s : RunSummary) : Prop where
  total : s.total < UInt64.size
  passed : s.passed < UInt64.size
  failed : s.failed < UInt64.size
  broken : s.broken < UInt64.size
  notRun : s.notRun < UInt64.size

variable {s : RunSummary}

theorem Fits.read_back (fits : s.Fits) : decode? (encode s) = some s := by
  show (do
    let count (field : Option Json) : Option Nat := field.bind (natBelow? UInt64.size)
    some (⟨← count (some (ofNat s.total)), ← count (some (ofNat s.passed)), ← count (some (ofNat s.failed)),
      ← count (some (ofNat s.broken)), ← count (some (ofNat s.notRun))⟩ : RunSummary)) = some s
  simp only [count_ofNat fits.total, count_ofNat fits.passed, count_ofNat fits.failed, count_ofNat fits.broken,
    count_ofNat fits.notRun]
  rfl

end RunSummary

namespace TimingStats

theorem lookupEntry_members (stats : TimingStats) (kind : RequestKind) :
    SortedMap.lookupEntry kind.name stats.members = (stats.samples? kind).map encode := by
  obtain ⟨get, set, discovery⟩ := stats
  cases get <;> cases set <;> cases discovery <;> cases kind <;> rfl

theorem kindSamples?_members (stats : TimingStats) (kind : RequestKind) :
    kindSamples? stats.members kind = some (stats.samples? kind) := by
  unfold kindSamples?
  rw [lookupEntry_members]
  cases stats.samples? kind with
  | none => rfl
  | some samples => simp

theorem all_members (stats : TimingStats) :
    (stats.members.all fun (key, _) => RequestKind.all.any fun kind => kind.name == key) = true := by
  simp only [members, List.all_eq_true, List.mem_filterMap, List.any_eq_true]
  rintro ⟨key, document⟩ ⟨kind, member, found⟩
  obtain ⟨samples, -, same⟩ := Option.map_eq_some_iff.mp found
  cases same
  exact ⟨kind, member, beq_self_eq_true _⟩

end TimingStats

instance : LawfulJsonForm TimingStats where
  decode_encode stats := by
    show (if stats.members.all fun (key, _) => RequestKind.all.any fun kind => kind.name == key then do
      some (⟨← TimingStats.kindSamples? stats.members .get, ← TimingStats.kindSamples? stats.members .set,
        ← TimingStats.kindSamples? stats.members .discovery⟩ : TimingStats)
      else none) = some stats
    simp only [stats.all_members, if_true, TimingStats.kindSamples?_members]
    rfl

namespace TimingSummary

def Fits (s : TimingSummary) : Prop := s.count < UInt64.size

variable {s : TimingSummary}

theorem Fits.read_back (fits : s.Fits) : decode? (encode s) = some s := by
  show (do
    some (⟨← (some (ofNat s.count)).bind (natBelow? UInt64.size), ← required? (some (encode s.min)),
      ← required? (some (encode s.max)), ← required? (some (encode s.mean))⟩ : TimingSummary)) = some s
  simp only [required?_encode, count_ofNat fits]
  rfl

end TimingSummary

theorem Settings.field?_encode {α : Type} [JsonForm α] [LawfulJsonForm α] (default v : α) :
    Settings.field? default (some (encode v)) = some v := decode?_encode v

instance : LawfulJsonForm Settings where
  decode_encode s := by
    show (do
      some (⟨← Settings.field? Settings.default.universeId (some (encode s.universeId)),
        ← Settings.field? Settings.default.uid (some (encode s.uid)),
        ← Settings.field? Settings.default.broadcastWriteDelayMs (some (encode s.broadcastWriteDelayMs)),
        ← Settings.field? Settings.default.interTestDelayMs (some (encode s.interTestDelayMs)),
        ← Settings.field? Settings.default.timestamp (some (encode s.timestamp)),
        ← Settings.field? Settings.default.queuedMessageLimit (some (encode s.queuedMessageLimit)),
        ← Settings.field? Settings.default.ackTimerLimit (some (encode s.ackTimerLimit))⟩ : Settings)) = some s
    simp only [Settings.field?_encode]
    rfl

theorem Timestamp.required?_encode (t : Timestamp) : required? (some (encode t)) = ofText? t.display := by
  simp only [required?, Option.bind_some, decode?, encode]

namespace RunOutcome

def Fits (o : RunOutcome) : Prop := ∀ r ∈ o.tests, r.Fits

variable {o : RunOutcome}

theorem Fits.read_back (fits : o.Fits) (started : Timestamp.ofText? o.startedAt.display = some o.startedAt) :
    decode? (encode o) = some o := by
  have startedAt : required? (some (encode o.startedAt)) = some o.startedAt := by
    rw [Timestamp.required?_encode, started]
  have tests : required? (some (encode o.tests)) = some o.tests :=
    list_decode?_encode fun r member => (fits r member).read_back
  show (do
    some (⟨← required? (some (encode o.startedAt)), ← required? (some (encode o.duration)),
      ← required? (some (encode o.tests)), .ofList o.properties.entries,
      ← required? (some (encode o.unknownTests))⟩ : RunOutcome)) = some o
  simp only [required?_encode, startedAt, tests, SortedMap.ofList_entries]
  rfl

end RunOutcome

/--
Every document that is written reads back as the value it was made from. The point at which a run started has to
have a text that reads back. A payload of null is not a missing one, and a span given in parts has the length of
both together, if their whole seconds fit.
-/
theorem Json.documents_read_back :
    (∀ r : Response, decode? (encode r) = some r) ∧
    (∀ r : GetRequest, decode? (encode r) = some r) ∧
    (∀ reason : StopReason, decode? (encode reason) = some reason) ∧
    (∀ report : DrainReport, report.Fits → decode? (encode report) = some report) ∧
    (∀ r : TestRecord, r.Fits → decode? (encode r) = some r) ∧
    (∀ s : RunSummary, s.Fits → decode? (encode s) = some s) ∧
    (∀ stats : TimingStats, decode? (encode stats) = some stats) ∧
    (∀ s : TimingSummary, s.Fits → decode? (encode s) = some s) ∧
    (∀ s : Settings, decode? (encode s) = some s) ∧
    (∀ o : RunOutcome, o.Fits → Timestamp.ofText? o.startedAt.display = some o.startedAt →
      decode? (encode o) = some o) ∧
    (∀ r : Response, encode { r with payload := some (.fields .null) } ≠ encode { r with payload := none }) ∧
    ∀ (secs : UInt64) (nanos : UInt32),
      (decode? (Span.parts secs nanos) = (none : Option Span) ↔
        UInt64.size ≤ secs.toNat + nanos.toNat / nanosPerSec) ∧
      ∀ s : Span, decode? (Span.parts secs nanos) = some s →
        s.toNanos = secs.toNat * nanosPerSec + nanos.toNat := by
  exact ⟨decode?_encode, decode?_encode, decode?_encode, fun _ => DrainReport.Fits.read_back,
    fun _ => TestRecord.Fits.read_back, fun _ => RunSummary.Fits.read_back, decode?_encode,
    fun _ => TimingSummary.Fits.read_back, decode?_encode, fun _ => RunOutcome.Fits.read_back,
    Response.encode_null_ne_encode_none,
    fun _ _ => ⟨Span.decode?_parts_eq_none_iff, fun _ => Span.toNanos_of_decode?_parts⟩⟩

/-- An outcome with a record of each kind: one that ran and one that was skipped after a drain that failed. -/
theorem Json.documents_read_back_outcome :
    let report : DrainReport := ⟨.protocolError .timeout, 2, 1, 0⟩
    let o : RunOutcome := {
      startedAt := ⟨1700000000, 250000000⟩
      duration := .ofMillis 1500
      tests := [⟨"identify", "", .passed, .ofMillis 7, none, ["slow"], none⟩,
        ⟨"reset", "", .notRun, .zero, some "identify", [], some report⟩]
      properties := .ofList [("model", .null), ("count", .int 3)]
      unknownTests := ["gone"] }
    report.Fits ∧ o.Fits ∧ Timestamp.ofText? o.startedAt.display = some o.startedAt ∧
      decode? (encode o) = some o := by
  intro report o
  have report_fits : report.Fits := ⟨by decide, by decide, by decide⟩
  have fits : o.Fits := by
    refine List.forall_mem_cons.mpr ⟨fun _ drained => ?_, List.forall_mem_singleton.mpr fun _ drained => ?_⟩
    · cases drained
    · cases drained
      exact report_fits
  have started : Timestamp.ofText? (Timestamp.display ⟨1700000000, 250000000⟩) =
      some ⟨1700000000, 250000000⟩ := by
    decide +kernel
  exact ⟨report_fits, fits, started, documents_read_back.2.2.2.2.2.2.2.2.2.1 o fits started⟩

end Conformance
