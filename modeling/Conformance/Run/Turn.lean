import Conformance.Drain.Fetcher
import Conformance.Run.Outcome
import Conformance.Suite.Graph

/-!
The turns of a run. Each test has one turn: the responder is drained, and then the test is passed
over, because it is broken or a property that it requires is not set, or its body is carried out.
-/

namespace Conformance

structure RunPlan where
  fetcher : Fetcher
  interTestDelay : Span
  timestamp : Bool
  debug : Bool
  total : Nat

namespace RunPlan

def stampsStart (p : RunPlan) : Bool := p.timestamp && p.debug

def stampsEnd (p : RunPlan) : Bool := p.timestamp && !p.debug

end RunPlan

inductive Verdict where
  | broken
  | missing (property : String)
  | ran (state : TestState) (warnings : List String) (nanos : Nat)
deriving DecidableEq

namespace Verdict

def skipReason : Verdict → Option String
  | .broken => some "broken after init"
  | .missing property => some s!"property {property} not found"
  | .ran _ _ _ => none

def state : Verdict → TestState
  | .broken => .broken
  | .missing _ => .notRun
  | .ran state _ _ => state

def warnings : Verdict → List String
  | .ran _ warnings _ => warnings
  | _ => []

/-- The time that the body took, in nanoseconds. -/
def nanos : Verdict → Nat
  | .ran _ _ nanos => nanos
  | _ => 0

/-- Whether the turn counts as completed; that of a broken test does not. -/
def completes : Verdict → Bool
  | .broken => false
  | _ => true

def closing (p : RunPlan) (test : String) : Verdict → Event
  | .broken => .brokenAfterInit test
  | .missing property => .propertyMissing test property
  | .ran state _ _ => .testFinished p.stampsEnd test state

end Verdict

structure Turn (σ : Type) where
  node : TestNode
  verdict : Verdict
  drain : DrainRun σ
  /-- How many turns had been completed before this one, and how many there are in all. -/
  progress : Nat × Nat
  world : World σ
  notes : List Note
  events : List Event

namespace Turn

variable {σ : Type}

def record (t : Turn σ) : TestRecord where
  name := t.node.name
  description := t.node.definition.description
  state := t.verdict.state
  duration := .ofNanos t.verdict.nanos
  skipReason := t.verdict.skipReason
  warnings := t.verdict.warnings
  drain := some t.drain.report

def opening (p : RunPlan) (n : TestNode) (drain : DrainRun σ) : List Event :=
  drain.events.toList ++ [.testStarted p.stampsStart n.name n.definition.description] ++
    if drain.report.reason.isDrained then [] else [.notDrained n.name drain.report.reason]

/-- Carries out the body of a test in the world as it is. -/
def execute [Transport σ] (n : TestNode) (w : World σ) : Verdict × Bench σ :=
  let (state, bench) := n.fixture.body.run
    { w with warnings := n.fixture.warnings, notes := #[], events := #[] }
  (.ran state bench.warnings (bench.clock - w.clock), bench)

/-- The pause after a body, unless its turn is the last. -/
def pause (p : RunPlan) (last : Bool) : Nat := if last then 0 else p.interTestDelay.sleepNanos

def take [Transport σ] (p : RunPlan) (n : TestNode) (last : Bool) (completed : Nat) (w : World σ) : Turn σ :=
  let drain := p.fetcher.drainAll w.transport
  let w := { w with transport := drain.transport, clock := w.clock + drain.elapsed }
  let opening := opening p n drain
  let progress := (completed, p.total)
  let skip (verdict : Verdict) : Turn σ :=
    { node := n, verdict, drain, progress, world := w, notes := []
      events := opening ++ [verdict.closing p n.name] }
  if n.fixture.state = .broken then skip .broken
  else
    match w.store.firstMissing? n.requires.toList with
    | some property => skip (.missing property)
    | none =>
      let (verdict, bench) := execute n w
      { node := n, verdict, drain, progress
        world := { bench.toWorld with clock := bench.clock + pause p last }
        notes := bench.notes.toList
        events := opening ++ bench.events.toList ++ [verdict.closing p n.name] }

def takeAll [Transport σ] (p : RunPlan) : List TestNode → (completed : Nat) → World σ → List (Turn σ)
  | [], _, _ => []
  | n :: rest, completed, w =>
    let t := take p n rest.isEmpty completed w
    t :: takeAll p rest (if t.verdict.completes then completed + 1 else completed) t.world

end Turn

end Conformance
