import Mathlib.Data.List.Find
import Conformance.Proofs.Fixture.Body
import Conformance.Run.Turn

/-!
# Turns

A turn passes its test over or carries the body out: `take_broken`, `take_missing` and `take_ran` say
which. `take_agrees` is one turn in two runs: the stores agree on what the test reads, so the turns come
to the same.
-/

namespace Conformance

theorem Store.firstMissing?_congr {s s' : Store} {names : List String}
    (agree : ∀ name ∈ names, s.get? name = s'.get? name) : s.firstMissing? names = s'.firstMissing? names :=
  List.find?_congr fun name member => by rw [contains_eq, contains_eq, agree name member]

namespace Verdict

variable {verdict : Verdict} {property : String}

theorem missing_text_inj {other : String}
    (same : s!"property {other} not found" = s!"property {property} not found") : other = property := by
  have texts : ("property " ++ other ++ " not found").toList = ("property " ++ property ++ " not found").toList :=
    congrArg String.toList same
  simp only [String.toList_append] at texts
  exact String.toList_inj.mp (List.append_cancel_left (List.append_cancel_right texts))

theorem missing_text_ne (property : String) : s!"property {property} not found" ≠ "broken after init" := by
  intro same
  have texts : ("property " ++ property ++ " not found").toList = "broken after init".toList :=
    congrArg String.toList same
  simp at texts

theorem skipReason_ne_none (skipped : ∀ state warnings nanos, verdict ≠ .ran state warnings nanos) :
    verdict.skipReason ≠ none := by
  cases verdict with
  | ran => exact absurd rfl (skipped _ _ _)
  | broken => nofun
  | missing => nofun

theorem nanos_of_skipped (skipped : verdict.skipReason ≠ none) : verdict.nanos = 0 := by
  cases verdict with
  | ran => exact absurd rfl skipped
  | broken => rfl
  | missing => rfl

theorem skipReason_eq_broken_iff : verdict.skipReason = some "broken after init" ↔ verdict = .broken := by
  cases verdict with
  | broken => simp [skipReason]
  | missing other => simp [skipReason, missing_text_ne other]
  | ran => simp [skipReason]

theorem skipReason_eq_missing_iff :
    verdict.skipReason = some s!"property {property} not found" ↔ verdict = .missing property := by
  cases verdict with
  | broken => simp [skipReason, (missing_text_ne property).symm]
  | missing other =>
    constructor
    · intro same
      rw [missing_text_inj (Option.some.inj same)]
    · intro same
      rw [same, skipReason]
  | ran => simp [skipReason]

theorem completes_iff : verdict.completes = true ↔ verdict.skipReason ≠ some "broken after init" := by
  rw [Ne, skipReason_eq_broken_iff]
  cases verdict <;> simp [completes]

end Verdict

namespace Turn

variable {σ τ : Type} [Transport σ] [Transport τ] {p : RunPlan} {q : RunPlan} {n : TestNode} {last last' : Bool}
  {completed completed' : Nat} {w : World σ} {v : World τ}

/-! ### One turn -/

/-- The world after the drain of a turn. -/
def drained (p : RunPlan) (w : World σ) : World σ :=
  { w with
    transport := (p.fetcher.drainAll w.transport).transport
    clock := w.clock + (p.fetcher.drainAll w.transport).elapsed }

/-- A turn that comes to its verdict without the body. -/
def passOver (p : RunPlan) (n : TestNode) (completed : Nat) (w : World σ) (verdict : Verdict) : Turn σ where
  node := n
  verdict
  drain := p.fetcher.drainAll w.transport
  progress := (completed, p.total)
  world := drained p w
  notes := []
  events := opening p n (p.fetcher.drainAll w.transport) ++ [verdict.closing p n.name]

/-- A turn in which the body is carried out. -/
def carryOut (p : RunPlan) (n : TestNode) (last : Bool) (completed : Nat) (w : World σ) : Turn σ where
  node := n
  verdict := (execute n (drained p w)).1
  drain := p.fetcher.drainAll w.transport
  progress := (completed, p.total)
  world :=
    { (execute n (drained p w)).2.toWorld with clock := (execute n (drained p w)).2.clock + pause p last }
  notes := (execute n (drained p w)).2.notes.toList
  events := opening p n (p.fetcher.drainAll w.transport) ++ (execute n (drained p w)).2.events.toList ++
    [(execute n (drained p w)).1.closing p n.name]

theorem take_broken (broken : n.fixture.state = .broken) :
    take p n last completed w = passOver p n completed w .broken := by
  unfold take
  simp only [broken, if_true]
  rfl

theorem take_missing {property : String} (sound : n.fixture.state ≠ .broken)
    (missing : w.store.firstMissing? n.requires.toList = some property) :
    take p n last completed w = passOver p n completed w (.missing property) := by
  unfold take
  simp only [sound, if_false, missing]
  rfl

theorem take_ran (sound : n.fixture.state ≠ .broken) (complete : w.store.firstMissing? n.requires.toList = none) :
    take p n last completed w = carryOut p n last completed w := by
  unfold take
  simp only [sound, if_false, complete]
  rfl

theorem take_cases (p : RunPlan) (n : TestNode) (last : Bool) (completed : Nat) (w : World σ) :
    take p n last completed w = carryOut p n last completed w ∨
      ∃ verdict, verdict.skipReason ≠ none ∧ take p n last completed w = passOver p n completed w verdict := by
  by_cases broken : n.fixture.state = .broken
  · exact .inr ⟨.broken, nofun, take_broken broken⟩
  · cases missing : w.store.firstMissing? n.requires.toList with
    | some property => exact .inr ⟨.missing property, nofun, take_missing broken missing⟩
    | none => exact .inl (take_ran broken missing)

theorem node_take : (take p n last completed w).node = n := by
  rcases take_cases p n last completed w with same | ⟨_, -, same⟩
  · rw [same, carryOut]
  · rw [same, passOver]

theorem drain_take : (take p n last completed w).drain = p.fetcher.drainAll w.transport := by
  rcases take_cases p n last completed w with same | ⟨_, -, same⟩
  · rw [same, carryOut]
  · rw [same, passOver]

theorem progress_take : (take p n last completed w).progress = (completed, p.total) := by
  rcases take_cases p n last completed w with same | ⟨_, -, same⟩
  · rw [same, carryOut]
  · rw [same, passOver]

/-- The two turns come to the same for the record of the test. -/
structure Agrees (t : Turn σ) (t' : Turn τ) : Prop where
  state : t.verdict.state = t'.verdict.state
  skipReason : t.verdict.skipReason = t'.verdict.skipReason
  warnings : t.verdict.warnings = t'.verdict.warnings

/-- Two turns of a test come to the same if the stores agree on all that the test reads. -/
theorem take_agrees {allowed : String → Prop} (reads : n.fixture.body.ReadsOnly allowed)
    (required : ∀ property ∈ n.requires, allowed property)
    (agree : ∀ property, allowed property → w.store.get? property = v.store.get? property) :
    (take p n last completed w).Agrees (take q n last' completed' v) ∧
      ∀ property, allowed property →
        (take p n last completed w).world.store.get? property =
          (take q n last' completed' v).world.store.get? property := by
  by_cases broken : n.fixture.state = .broken
  · rw [take_broken broken, take_broken broken]
    exact ⟨⟨rfl, rfl, rfl⟩, agree⟩
  · have same : w.store.firstMissing? n.requires.toList = v.store.firstMissing? n.requires.toList :=
      Store.firstMissing?_congr fun property member => agree property (required property member)
    cases missing : w.store.firstMissing? n.requires.toList with
    | some property =>
      rw [take_missing broken missing, take_missing broken (same.symm.trans missing)]
      exact ⟨⟨rfl, rfl, rfl⟩, agree⟩
    | none =>
      rw [take_ran broken missing, take_ran broken (same.symm.trans missing)]
      obtain ⟨state, warnings, store⟩ := Body.run_agrees reads
        { drained p w with warnings := n.fixture.warnings, notes := #[], events := #[] }
        { drained q v with warnings := n.fixture.warnings, notes := #[], events := #[] } agree rfl
      exact ⟨⟨state, rfl, warnings⟩, store⟩

/-! ### Runs of turns -/

/-- The world after some turns. -/
def final (turns : List (Turn σ)) (w : World σ) : World σ := (turns.getLast?.map world).getD w

omit [Transport σ] in
theorem final_cons (t : Turn σ) (turns : List (Turn σ)) : final (t :: turns) w = final turns t.world := by
  cases turns with
  | nil => rfl
  | cons next rest =>
    rw [final, final, List.getLast?_cons_cons]
    cases found : (next :: rest).getLast? with
    | none => simp at found
    | some turn => rfl

theorem map_node_takeAll (p : RunPlan) (nodes : List TestNode) (completed : Nat) (w : World σ) :
    (takeAll p nodes completed w).map node = nodes := by
  induction nodes generalizing completed w with
  | nil => rfl
  | cons n rest ih => rw [takeAll, List.map_cons, node_take, ih]

theorem node_mem {nodes : List TestNode} {t : Turn σ} (member : t ∈ takeAll p nodes completed w) :
    t.node ∈ nodes := by
  rw [← map_node_takeAll p nodes completed w]
  exact List.mem_map_of_mem member

theorem exists_turn_of_node {nodes : List TestNode} (member : n ∈ nodes) :
    ∃ t ∈ takeAll p nodes completed w, t.node = n := by
  rw [← map_node_takeAll p nodes completed w] at member
  exact List.mem_map.mp member

end Turn

end Conformance
