import Conformance.Proofs.Drain.Effects
import Conformance.Proofs.Run.Turn
import Conformance.Proofs.Suite.Recast
import Conformance.Run.Runner

/-!
# Runs over a view of a transport

A run asks its transport for answers and nothing else. So a run over a transport that is seen as another one
is the run over that other one (`run_map`), and a watch on the transport changes nothing (`run_watched`).
-/

namespace Conformance

section Map

variable {σ τ : Type}

def World.map (f : σ → τ) (w : World σ) : World τ := { w.toEquipment.map f with store := w.store }

def Bench.map (f : σ → τ) (b : Bench σ) : Bench τ :=
  { b.toWorld.map f with warnings := b.warnings, notes := b.notes, events := b.events }

def DrainRun.map (f : σ → τ) (run : DrainRun σ) : DrainRun τ :=
  ⟨run.report, f run.transport, run.elapsed, run.events⟩

def Turn.map (f : σ → τ) (t : Turn σ) : Turn τ :=
  ⟨t.node, t.verdict, t.drain.map f, t.progress, t.world.map f, t.notes, t.events⟩

def Runner.map (f : σ → τ) (r : Runner σ) : Runner τ :=
  { r.toEquipment.map f with settings := r.settings, catalog := r.catalog, registry := r.registry }

def RunResult.map (f : σ → τ) (result : RunResult σ) : RunResult τ :=
  ⟨result.result, result.runner.map f, result.progress, result.notes, result.events⟩

end Map

variable {σ τ : Type} [Transport σ] [Transport τ] (v : View σ τ)

theorem Body.run_map (body : Body) (b : Bench σ) :
    body.run (b.map v.see) = ((body.run b).1, (body.run b).2.map v.see) := by
  induction body generalizing b with
  | done => rfl
  | get request next ih =>
    have asked : Transport.get (b.map v.see).transport request =
        ((Transport.get b.transport request).1, v.see (Transport.get b.transport request).2) := v.get_see _ _
    rw [run, run, asked, ← ih]
    rfl
  | clock _ ih | read _ _ ih | samples _ _ ih | lookUp _ _ ih | keep _ _ _ ih | write _ _ _ ih | sleep _ _ ih
  | record _ _ _ ih | warn _ _ ih | note _ _ ih | remark _ _ ih =>
    rw [run, run, ← ih]
    rfl

theorem Fetcher.drainAll_map (fetcher : Fetcher) (t : σ) :
    fetcher.drainAll (v.see t) = (fetcher.drainAll t).map v.see := by
  rw [drainAll_congr fun i => (v.receptionAt_see t fetcher.request i).symm, v.after_see, ← transport_drainAll]
  rfl

namespace Turn

variable {p : RunPlan} {n : TestNode} {last : Bool} {completed : Nat}

theorem drained_map (p : RunPlan) (w : World σ) : drained p (w.map v.see) = (drained p w).map v.see := by
  have same : p.fetcher.drainAll (w.map v.see).transport = (p.fetcher.drainAll w.transport).map v.see :=
    p.fetcher.drainAll_map v w.transport
  rw [drained, same]
  rfl

theorem execute_map (n : TestNode) (w : World σ) :
    execute n (w.map v.see) = ((execute n w).1, (execute n w).2.map v.see) := by
  have body := n.fixture.body.run_map v { w with warnings := n.fixture.warnings, notes := #[], events := #[] }
  unfold execute
  exact congrArg (fun ran => (Verdict.ran ran.1 ran.2.warnings (ran.2.clock - w.clock), ran.2)) body

theorem take_map (w : World σ) :
    take p n last completed (w.map v.see) = (take p n last completed w).map v.see := by
  have drain : p.fetcher.drainAll (w.map v.see).transport = (p.fetcher.drainAll w.transport).map v.see :=
    p.fetcher.drainAll_map v w.transport
  by_cases broken : n.fixture.state = .broken
  · rw [take_broken broken, take_broken broken, passOver, drain, drained_map]
    rfl
  · have store : (w.map v.see).store = w.store := rfl
    cases missing : w.store.firstMissing? n.requires.toList with
    | some property =>
      rw [take_missing broken missing, take_missing (w := w.map v.see) broken missing, passOver, drain, drained_map]
      rfl
    | none =>
      rw [take_ran broken missing, take_ran (w := w.map v.see) broken missing, carryOut, drain, drained_map,
        execute_map]
      rfl

theorem takeAll_map (nodes : List TestNode) (completed : Nat) (w : World σ) :
    takeAll p nodes completed (w.map v.see) = (takeAll p nodes completed w).map (map v.see) := by
  induction nodes generalizing completed w with
  | nil => rfl
  | cons n rest ih =>
    rw [takeAll, takeAll, List.map_cons, take_map]
    exact congrArg _ (ih _ _)

end Turn

namespace Runner

variable {r : Runner σ} {options : RunOptions} {startedAt : Timestamp} {debug : Bool}

omit [Transport σ] [Transport τ] in
theorem outcome_map (f : σ → τ) (turns : List (Turn σ)) (last : World σ) :
    (r.map f).outcome options startedAt (turns.map (Turn.map f)) (last.map f) =
      r.outcome options startedAt turns last := by
  unfold outcome
  rw [List.map_map]
  rfl

theorem runOrdered_map (fetcher : Fetcher) (nodes : List TestNode) :
    (r.map v.see).runOrdered options startedAt debug fetcher nodes =
      (r.runOrdered options startedAt debug fetcher nodes).map v.see := by
  have taken : Turn.takeAll ((r.map v.see).plan fetcher debug nodes.length) nodes 0 (r.map v.see).world =
      (Turn.takeAll (r.plan fetcher debug nodes.length) nodes 0 r.world).map (Turn.map v.see) :=
    Turn.takeAll_map v nodes 0 r.world
  unfold runOrdered
  rw [taken]
  generalize Turn.takeAll (r.plan fetcher debug nodes.length) nodes 0 r.world = turns
  have last : ((turns.map (Turn.map v.see)).getLast?.map Turn.world).getD (r.map v.see).world =
      ((turns.getLast?.map Turn.world).getD r.world).map v.see := by
    rw [List.getLast?_map]
    cases turns.getLast? <;> rfl
  dsimp only
  rw [last, outcome_map, List.map_map, List.flatMap_map, List.flatMap_map]
  rfl

theorem construct_map (r : Runner σ) (options : RunOptions) :
    (r.map v.see).construct options = (r.construct options).map v.see :=
  DependencyGraph.build_map v r.registry (r.candidates options) r.toEquipment

theorem run_map (r : Runner σ) :
    (r.map v.see).run options startedAt debug = (r.run options startedAt debug).map v.see := by
  have fetcher : (r.map v.see).fetcher = r.fetcher := rfl
  unfold run
  rw [fetcher, construct_map]
  cases r.fetcher with
  | error error => rfl
  | ok fetcher =>
    have result : ((r.construct options).map v.see).result = (r.construct options).result := rfl
    dsimp only
    rw [result]
    cases (r.construct options).result with
    | error error => rfl
    | ok graph =>
      have resumed : (r.map v.see).resume ((r.construct options).map v.see).equipment =
          (r.resume (r.construct options).equipment).map v.see := rfl
      dsimp only
      rw [resumed, runOrdered_map]
      rfl

/-- The runner with a watch on its transport. -/
def watched (r : Runner σ) : Runner (Watched σ) := r.map fun t => ⟨t, []⟩

/-- Nothing in a run depends on the watch. -/
theorem run_watched (r : Runner σ) :
    (r.watched.run options startedAt debug).map Watched.transport = r.run options startedAt debug :=
  (run_map Watched.forget r.watched).symm

end Runner

end Conformance
