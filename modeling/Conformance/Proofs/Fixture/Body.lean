import Conformance.Fixture.Body

/-!
# What bodies read and write

`WritesOnly` and `ReadsOnly` say of a body which properties it may set and on which its course may
depend, and `written` which it does set on a given bench. A property that a body does not write is left
as it was (`get?_run`), and two runs of a body over stores that agree on what it reads agree in their
verdicts, their warnings, and those properties (`run_agrees`).
-/

namespace Conformance

theorem Store.get?_set (s : Store) (name other : String) (value : Json) :
    (s.set name value).get? other = if other = name then some value else s.get? other :=
  SortedMap.get?_insert _ _ _ _

theorem Store.contains_eq (s : Store) (name : String) : s.contains name = (s.get? name).isSome := rfl

namespace Body

/-- Whatever the body meets, it writes none but the allowed properties. -/
def WritesOnly (allowed : String → Prop) : Body → Prop
  | .done _ => True
  | .get _ next => ∀ result, (next result).WritesOnly allowed
  | .sleep _ next => next.WritesOnly allowed
  | .clock next => ∀ now, (next now).WritesOnly allowed
  | .record _ _ next => next.WritesOnly allowed
  | .samples _ next => ∀ elapsed, (next elapsed).WritesOnly allowed
  | .read _ next => ∀ value, (next value).WritesOnly allowed
  | .write property _ next => allowed property ∧ next.WritesOnly allowed
  | .lookUp _ next => ∀ value, (next value).WritesOnly allowed
  | .keep _ _ next => next.WritesOnly allowed
  | .warn _ next => next.WritesOnly allowed
  | .note _ next => next.WritesOnly allowed
  | .remark _ next => next.WritesOnly allowed

/-- The course of the body depends on the allowed properties alone: what it reads is among them, and
whatever comes back from the responder, from the clock, from the response times or from what was put aside
leaves the rest of the body the same. -/
def ReadsOnly (allowed : String → Prop) : Body → Prop
  | .done _ => True
  | .get _ next => (∀ result result', next result = next result') ∧ ∀ result, (next result).ReadsOnly allowed
  | .sleep _ next => next.ReadsOnly allowed
  | .clock next => (∀ now now', next now = next now') ∧ ∀ now, (next now).ReadsOnly allowed
  | .record _ _ next => next.ReadsOnly allowed
  | .samples _ next =>
    (∀ elapsed elapsed', next elapsed = next elapsed') ∧ ∀ elapsed, (next elapsed).ReadsOnly allowed
  | .read property next => allowed property ∧ ∀ value, (next value).ReadsOnly allowed
  | .write _ _ next => next.ReadsOnly allowed
  | .lookUp _ next => (∀ value value', next value = next value') ∧ ∀ value, (next value).ReadsOnly allowed
  | .keep _ _ next => next.ReadsOnly allowed
  | .warn _ next => next.ReadsOnly allowed
  | .note _ next => next.ReadsOnly allowed
  | .remark _ next => next.ReadsOnly allowed

variable {σ τ : Type} [Transport σ] [Transport τ] {allowed : String → Prop} {body : Body}

/-- The properties that the body writes when it is carried out on the bench, in that order. -/
def written : Body → Bench σ → List String
  | .done _, _ => []
  | .get request next, b =>
    let (reception, transport) := Transport.get b.transport request
    (next reception.result).written
      { b with
        transport, clock := b.clock + reception.latency
        events := b.events ++ reception.remarks.map Event.remark }
  | .sleep span next, b => next.written { b with clock := span.sleepNanos + b.clock }
  | .clock next, b => (next b.clock).written b
  | .record kind elapsed next, b => next.written { b with timing := b.timing.record kind elapsed }
  | .samples kind next, b => (next (b.timing.samples kind)).written b
  | .read property next, b => (next (b.store.get? property)).written b
  | .write property value next, b =>
    property :: next.written
      { b with
        store := b.store.set property value
        events := b.events ++ b.store.writeEvents property }
  | .lookUp key next, b => (next (b.memory.get? key)).written b
  | .keep key value next, b => next.written { b with memory := b.memory.insert key value }
  | .warn text next, b => next.written { b with warnings := b.warnings ++ [text] }
  | .note entry next, b => next.written { b with notes := b.notes.push entry }
  | .remark line next, b => next.written { b with events := b.events.push (.remark line) }

theorem WritesOnly.of_mem_written {property : String} (writes : body.WritesOnly allowed) {b : Bench σ}
    (member : property ∈ body.written b) : allowed property := by
  induction body generalizing b with
  | done => cases member
  | get _ _ ih | clock _ ih | read _ _ ih | samples _ _ ih | lookUp _ _ ih => exact ih _ (writes _) member
  | write other _ next ih =>
    rcases List.mem_cons.mp member with rfl | member
    · exact writes.1
    · exact ih writes.2 member
  | sleep _ _ ih | record _ _ _ ih | keep _ _ _ ih | warn _ _ ih | note _ _ ih | remark _ _ ih =>
    exact ih writes member

/-- A body leaves the properties that it does not write as they were. -/
theorem get?_run {property : String} (b : Bench σ) (unwritten : property ∉ body.written b) :
    (body.run b).2.store.get? property = b.store.get? property := by
  induction body generalizing b with
  | done => rw [run]
  | write other value next ih =>
    rw [written, List.mem_cons, not_or] at unwritten
    obtain ⟨unlike, later⟩ := unwritten
    rw [run, ih _ later, Store.get?_set, if_neg unlike]
  | get _ _ ih | clock _ ih | read _ _ ih | samples _ _ ih | lookUp _ _ ih => exact ih _ _ unwritten
  | sleep _ _ ih | record _ _ _ ih | keep _ _ _ ih | warn _ _ ih | note _ _ ih | remark _ _ ih => exact ih _ unwritten

/-- What a body writes is in the store from then on, and what was there before it stays there. -/
theorem contains_run {property : String} (b : Bench σ) :
    (body.run b).2.store.contains property = true ↔
      b.store.contains property = true ∨ property ∈ body.written b := by
  induction body generalizing b with
  | done => simp [run, written]
  | write other value next ih =>
    rw [run, ih, written, List.mem_cons, Store.contains_eq, Store.contains_eq, Store.get?_set]
    by_cases same : property = other
    · simp [same]
    · simp [same]
  | get _ _ ih | clock _ ih | read _ _ ih | samples _ _ ih | lookUp _ _ ih => exact ih _ _
  | sleep _ _ ih | record _ _ _ ih | keep _ _ _ ih | warn _ _ ih | note _ _ ih | remark _ _ ih => exact ih _

/-- Notes that are on the bench before a body is carried out stay in front of its own, and change nothing else. -/
theorem run_notes (body : Body) (marks : Array Note) (b : Bench σ) :
    body.run { b with notes := marks ++ b.notes } =
      ((body.run b).1, { (body.run b).2 with notes := marks ++ (body.run b).2.notes }) := by
  induction body generalizing b with
  | done => rfl
  | note entry next ih =>
    rw [run, run, ← ih]
    simp only [Array.append_push]
  | get _ _ ih | clock _ ih | read _ _ ih | samples _ _ ih | lookUp _ _ ih | write _ _ _ ih | sleep _ _ ih
  | record _ _ _ ih | keep _ _ _ ih | warn _ _ ih | remark _ _ ih => rw [run, run, ← ih]

/-- Two runs of a body over stores that agree on what it reads come to the same. -/
theorem run_agrees (reads : body.ReadsOnly allowed) (b : Bench σ) (b' : Bench τ)
    (agree : ∀ property, allowed property → b.store.get? property = b'.store.get? property)
    (warned : b.warnings = b'.warnings) :
    (body.run b).1 = (body.run b').1 ∧ (body.run b).2.warnings = (body.run b').2.warnings ∧
      ∀ property, allowed property →
        (body.run b).2.store.get? property = (body.run b').2.store.get? property := by
  induction body generalizing b b' with
  | done => exact ⟨by rw [run, run], warned, agree⟩
  | get request next ih =>
    have same := reads.1 (Transport.get b.transport request).1.result (Transport.get b'.transport request).1.result
    simp only [run, same]
    exact ih _ (reads.2 _) _ _ agree warned
  | clock next ih =>
    simp only [run, reads.1 b.clock b'.clock]
    exact ih _ (reads.2 _) _ _ agree warned
  | read property next ih =>
    simp only [run, agree property reads.1]
    exact ih _ (reads.2 _) _ _ agree warned
  | write property value next ih =>
    simp only [run]
    refine ih reads _ _ (fun other readable => ?_) warned
    simp only [Store.get?_set, agree other readable]
  | samples kind next ih =>
    simp only [run, reads.1 (b.timing.samples kind) (b'.timing.samples kind)]
    exact ih _ (reads.2 _) _ _ agree warned
  | lookUp key next ih =>
    simp only [run, reads.1 (b.memory.get? key) (b'.memory.get? key)]
    exact ih _ (reads.2 _) _ _ agree warned
  | warn text next ih =>
    simp only [run]
    exact ih reads _ _ agree (by rw [warned])
  | sleep _ _ ih | record _ _ _ ih | keep _ _ _ ih | note _ _ ih | remark _ _ ih =>
    simp only [run]
    exact ih reads _ _ agree warned

end Body

end Conformance
