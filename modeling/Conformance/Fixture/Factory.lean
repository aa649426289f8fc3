import Conformance.Fixture.Basic

/-!
Factories as programs. A factory is a tree of steps down to the fixture that it makes. It reaches the same
equipment as the bodies of tests, but it is called before the run has properties, and it cannot wait: neither
does it sleep, nor does it get an answer that takes time.
-/

namespace Conformance

inductive Factory where
  | made (fixture : Fixture)
  | get (request : GetRequest) (next : Option GetResult → Factory)
  /-- Reads the clock, in nanoseconds. -/
  | clock (next : Nat → Factory)
  | record (kind : RequestKind) (elapsed : Span) (next : Factory)
  /-- Reads the response times that have been recorded. -/
  | samples (kind : RequestKind) (next : List Span → Factory)
  /-- Looks up what was put aside under a name, and puts something aside. -/
  | lookUp (key : String) (next : Option Json → Factory)
  | keep (key : String) (value : Json) (next : Factory)
  | note (entry : Note) (next : Factory)
  | remark (line : Remark) (next : Factory)

/-- What factories work in: the equipment, with the notes and the log of the factories so far. -/
structure Workshop (σ : Type) extends Equipment σ where
  notes : Array Note
  events : Array Event

def Workshop.open (equipment : Equipment σ) : Workshop σ := { equipment with notes := #[], events := #[] }

/-- The result as far as it is there without waiting. -/
def Reception.prompt? (r : Reception) : Option GetResult := if r.latency = 0 then some r.result else none

namespace Factory

/-- A factory that does nothing but make a fixture with the body. -/
def ofBody (body : Body) : Factory := .made (.ofBody body)

def brokenOf (body : Body) : Factory := .made (.brokenOf body)

/-- An answer that takes time is lost on the factory, but the request has been sent all the same. -/
def run [Transport σ] : Factory → Workshop σ → Fixture × Workshop σ
  | .made fixture, w => (fixture, w)
  | .get request next, w =>
    let (reception, transport) := Transport.get w.transport request
    (next reception.prompt?).run
      { w with transport, events := w.events ++ reception.remarks.map Event.remark }
  | .clock next, w => (next w.clock).run w
  | .record kind elapsed next, w => next.run { w with timing := w.timing.record kind elapsed }
  | .samples kind next, w => (next (w.timing.samples kind)).run w
  | .lookUp key next, w => (next (w.memory.get? key)).run w
  | .keep key value next, w => next.run { w with memory := w.memory.insert key value }
  | .note entry next, w => next.run { w with notes := w.notes.push entry }
  | .remark line next, w => next.run { w with events := w.events.push (.remark line) }

end Factory

end Conformance
