import Conformance.Drain.Basic
import Conformance.Json.Basic
import Conformance.Run.Summary
import Conformance.TestState
import Conformance.Timestamp

/-!
What a run hands back: a record for every scheduled test, in the order in which they came, and the
properties at the end.
-/

namespace Conformance

structure TestRecord where
  name : String
  description : String
  state : TestState
  duration : Span
  skipReason : Option String
  warnings : List String
  drain : Option DrainReport
deriving DecidableEq

namespace TestRecord

def wasSkipped (r : TestRecord) : Bool := r.skipReason.isSome

/-- Whether messages may have been left in the responder before the test. -/
def drainIncomplete (r : TestRecord) : Bool :=
  match r.drain with
  | some report => !report.reason.isDrained
  | none => false

end TestRecord

structure RunOutcome where
  startedAt : Timestamp
  duration : Span
  tests : List TestRecord
  properties : SortedMap String Json
  unknownTests : List String

namespace RunSummary

def ofStates (states : List TestState) : RunSummary :=
  ⟨states.length, states.count .passed, states.count .failed, states.count .broken, states.count .notRun⟩

end RunSummary

namespace RunOutcome

def summary (o : RunOutcome) : RunSummary := .ofStates (o.tests.map TestRecord.state)

def get? (o : RunOutcome) (name : String) : Option TestRecord := o.tests.find? fun r => r.name == name

/-- The tests before which the responder was not drained. -/
def undrained (o : RunOutcome) : List String := (o.tests.filter TestRecord.drainIncomplete).map TestRecord.name

def order (o : RunOutcome) : List String := o.tests.map TestRecord.name

end RunOutcome

end Conformance
