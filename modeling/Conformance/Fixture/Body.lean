import Conformance.Fixture.Equipment

/-!
Test bodies as programs. A body is a tree of steps: what it sends, how long it sleeps, which
properties it reads and writes, and what it makes of the answers, down to the verdict. `Body.run`
carries it out over a bench, which holds everything that a body can see or change.
-/

namespace Conformance

inductive Note where
  | text (text : String)
  | propertyError (error : PropertyError)
deriving DecidableEq

inductive Body where
  | done (verdict : TestState)
  | get (request : GetRequest) (next : GetResult → Body)
  | sleep (span : Span) (next : Body)
  /-- Reads the clock, in nanoseconds. -/
  | clock (next : Nat → Body)
  | record (kind : RequestKind) (elapsed : Span) (next : Body)
  /-- Reads the response times that have been recorded. -/
  | samples (kind : RequestKind) (next : List Span → Body)
  | read (property : String) (next : Option Json → Body)
  | write (property : String) (value : Json) (next : Body)
  /-- Looks up what was put aside under a name, and puts something aside. -/
  | lookUp (key : String) (next : Option Json → Body)
  | keep (key : String) (value : Json) (next : Body)
  | warn (text : String) (next : Body)
  | note (entry : Note) (next : Body)
  | remark (line : Remark) (next : Body)

/-- What a body works on: the world, and the test's own warnings, notes and log. -/
structure Bench (σ : Type) extends World σ where
  warnings : List String
  notes : Array Note
  events : Array Event

namespace Body

def run [Transport σ] : Body → Bench σ → TestState × Bench σ
  | .done verdict, b => (verdict, b)
  | .get request next, b =>
    let (reception, transport) := Transport.get b.transport request
    (next reception.result).run
      { b with
        transport, clock := b.clock + reception.latency
        events := b.events ++ reception.remarks.map Event.remark }
  | .sleep span next, b => next.run { b with clock := span.sleepNanos + b.clock }
  | .clock next, b => (next b.clock).run b
  | .record kind elapsed next, b => next.run { b with timing := b.timing.record kind elapsed }
  | .samples kind next, b => (next (b.timing.samples kind)).run b
  | .read property next, b => (next (b.store.get? property)).run b
  | .write property value next, b =>
    next.run
      { b with
        store := b.store.set property value
        events := b.events ++ b.store.writeEvents property }
  | .lookUp key next, b => (next (b.memory.get? key)).run b
  | .keep key value next, b => next.run { b with memory := b.memory.insert key value }
  | .warn text next, b => next.run { b with warnings := b.warnings ++ [text] }
  | .note entry next, b => next.run { b with notes := b.notes.push entry }
  | .remark line next, b => next.run { b with events := b.events.push (.remark line) }

end Body

end Conformance
