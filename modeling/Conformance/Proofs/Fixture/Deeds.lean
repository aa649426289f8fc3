import Conformance.Fixture.Body
import Conformance.Proofs.Timing
import Conformance.Proofs.Transport.Served

/-!
# What bodies do to the equipment, and how long they take

`Body.deeds` lists what a body does to the equipment when it is carried out. The equipment that it leaves is the
one that it was given after these deeds (`equipment_run`): the transport has been asked its requests
(`transport_run`), and the response times have grown by its samples (`samples_run`). The clock goes on by the time
that it spends (`clock_run`).
-/

namespace Conformance

/-- A request that is sent, a response time that is recorded, or something that is put aside. -/
inductive Deed where
  | sent (request : GetRequest)
  | measured (kind : RequestKind) (elapsed : Span)
  | kept (key : String) (value : Json)

/-- The equipment with another time on its clock. -/
def Equipment.withClock {σ : Type} (e : Equipment σ) (clock : Nat) : Equipment σ := { e with clock }

namespace Deed

def request? : Deed → Option GetRequest
  | .sent request => some request
  | _ => none

def sample? (kind : RequestKind) : Deed → Option Span
  | .measured other elapsed => if other = kind then some elapsed else none
  | _ => none

/-- The deed sends nothing. -/
def Offline : Deed → Prop
  | .sent _ => False
  | _ => True

/-- The deed records no response time. -/
def Untimed : Deed → Prop
  | .measured _ _ => False
  | _ => True

/-- The deed puts nothing aside. -/
def Forgetful : Deed → Prop
  | .kept _ _ => False
  | _ => True

variable {σ : Type} [Transport σ] {deeds : List Deed}

def perform (e : Equipment σ) : Deed → Equipment σ
  | .sent request => { e with transport := (Transport.get e.transport request).2 }
  | .measured kind elapsed => { e with timing := e.timing.record kind elapsed }
  | .kept key value => { e with memory := e.memory.insert key value }

/-- The equipment after the deeds. -/
def performAll (e : Equipment σ) (deeds : List Deed) : Equipment σ := deeds.foldl perform e

theorem performAll_append (e : Equipment σ) (deeds deeds' : List Deed) :
    performAll e (deeds ++ deeds') = performAll (performAll e deeds) deeds' := List.foldl_append

/-- Deeds neither look at the clock nor change it. -/
theorem performAll_withClock (e : Equipment σ) (deeds : List Deed) (clock : Nat) :
    performAll (e.withClock clock) deeds = (performAll e deeds).withClock clock := by
  induction deeds generalizing e with
  | nil => rfl
  | cons deed rest ih =>
    have first : perform (e.withClock clock) deed = (perform e deed).withClock clock := by cases deed <;> rfl
    rw [performAll, List.foldl_cons, first]
    exact ih _

theorem clock_performAll (e : Equipment σ) (deeds : List Deed) : (performAll e deeds).clock = e.clock :=
  (congrArg Equipment.clock (performAll_withClock e deeds e.clock)).trans rfl

theorem transport_performAll (e : Equipment σ) (deeds : List Deed) :
    (performAll e deeds).transport = Transport.served e.transport (deeds.filterMap request?) := by
  induction deeds generalizing e with
  | nil => rfl
  | cons deed rest ih => cases deed <;> exact ih _

theorem filterMap_request? (offline : ∀ deed ∈ deeds, deed.Offline) : deeds.filterMap request? = [] := by
  refine List.filterMap_eq_nil_iff.mpr fun deed member => ?_
  cases deed with
  | sent => exact (offline _ member).elim
  | _ => rfl

/-- There is no other kind of deed. -/
theorem eq_nil_of_none (offline : ∀ deed ∈ deeds, deed.Offline) (untimed : ∀ deed ∈ deeds, deed.Untimed)
    (forgetful : ∀ deed ∈ deeds, deed.Forgetful) : deeds = [] := by
  refine List.eq_nil_iff_forall_not_mem.mpr fun deed member => ?_
  cases deed with
  | sent => exact offline _ member
  | measured => exact untimed _ member
  | kept => exact forgetful _ member

theorem samples_performAll (kind : RequestKind) (e : Equipment σ) (deeds : List Deed) :
    (performAll e deeds).timing.samples kind = e.timing.samples kind ++ deeds.filterMap (sample? kind) := by
  induction deeds generalizing e with
  | nil => exact (List.append_nil _).symm
  | cons deed rest ih =>
    cases deed with
    | measured other elapsed =>
      refine (ih _).trans ?_
      rw [perform, TimingStats.samples_record, List.filterMap_cons, sample?]
      by_cases same : other = kind
      · simp [same]
      · simp [same]
    | _ => exact ih _

theorem timing_performAll (e : Equipment σ) (untimed : ∀ deed ∈ deeds, deed.Untimed) :
    (performAll e deeds).timing = e.timing := by
  induction deeds generalizing e with
  | nil => rfl
  | cons deed rest ih =>
    obtain ⟨first, later⟩ := List.forall_mem_cons.mp untimed
    cases deed with
    | measured => exact first.elim
    | _ => exact ih _ later

theorem memory_performAll (e : Equipment σ) (forgetful : ∀ deed ∈ deeds, deed.Forgetful) :
    (performAll e deeds).memory = e.memory := by
  induction deeds generalizing e with
  | nil => rfl
  | cons deed rest ih =>
    obtain ⟨first, later⟩ := List.forall_mem_cons.mp forgetful
    cases deed with
    | kept => exact first.elim
    | _ => exact ih _ later

end Deed

namespace Body

variable {σ : Type} [Transport σ] {body : Body}

/-- What the body does to the equipment when it is carried out on the bench, in that order. -/
def deeds : Body → Bench σ → List Deed
  | .done _, _ => []
  | .get request next, b =>
    let (reception, transport) := Transport.get b.transport request
    .sent request :: (next reception.result).deeds
      { b with
        transport, clock := b.clock + reception.latency
        events := b.events ++ reception.remarks.map Event.remark }
  | .sleep span next, b => next.deeds { b with clock := span.sleepNanos + b.clock }
  | .clock next, b => (next b.clock).deeds b
  | .record kind elapsed next, b =>
    .measured kind elapsed :: next.deeds { b with timing := b.timing.record kind elapsed }
  | .samples kind next, b => (next (b.timing.samples kind)).deeds b
  | .read property next, b => (next (b.store.get? property)).deeds b
  | .write property value next, b =>
    next.deeds
      { b with
        store := b.store.set property value
        events := b.events ++ b.store.writeEvents property }
  | .lookUp key next, b => (next (b.memory.get? key)).deeds b
  | .keep key value next, b => .kept key value :: next.deeds { b with memory := b.memory.insert key value }
  | .warn text next, b => next.deeds { b with warnings := b.warnings ++ [text] }
  | .note entry next, b => next.deeds { b with notes := b.notes.push entry }
  | .remark line next, b => next.deeds { b with events := b.events.push (.remark line) }

/-- The time that the body takes when it is carried out on the bench: the latencies of its GETs, and its sleeps. -/
def spent : Body → Bench σ → Nat
  | .done _, _ => 0
  | .get request next, b =>
    let (reception, transport) := Transport.get b.transport request
    reception.latency + (next reception.result).spent
      { b with
        transport, clock := b.clock + reception.latency
        events := b.events ++ reception.remarks.map Event.remark }
  | .sleep span next, b => span.sleepNanos + next.spent { b with clock := span.sleepNanos + b.clock }
  | .clock next, b => (next b.clock).spent b
  | .record kind elapsed next, b => next.spent { b with timing := b.timing.record kind elapsed }
  | .samples kind next, b => (next (b.timing.samples kind)).spent b
  | .read property next, b => (next (b.store.get? property)).spent b
  | .write property value next, b =>
    next.spent
      { b with
        store := b.store.set property value
        events := b.events ++ b.store.writeEvents property }
  | .lookUp key next, b => (next (b.memory.get? key)).spent b
  | .keep key value next, b => next.spent { b with memory := b.memory.insert key value }
  | .warn text next, b => next.spent { b with warnings := b.warnings ++ [text] }
  | .note entry next, b => next.spent { b with notes := b.notes.push entry }
  | .remark line next, b => next.spent { b with events := b.events.push (.remark line) }

theorem equipment_run (b : Bench σ) :
    (body.run b).2.toEquipment =
      (Deed.performAll b.toEquipment (body.deeds b)).withClock (b.clock + body.spent b) := by
  induction body generalizing b with
  | done => rfl
  | get request next ih =>
    refine (ih _ _).trans ?_
    rw [spent, ← Nat.add_assoc]
    exact (congrArg (Equipment.withClock · _)
      (Deed.performAll_withClock (Deed.perform b.toEquipment (.sent request)) _ _)).trans rfl
  | sleep span next ih =>
    refine (ih _).trans ?_
    rw [spent, Nat.add_left_comm, ← Nat.add_assoc]
    exact (congrArg (Equipment.withClock · _) (Deed.performAll_withClock b.toEquipment _ _)).trans rfl
  | clock _ ih | read _ _ ih | samples _ _ ih | lookUp _ _ ih => exact ih _ _
  | record _ _ _ ih | write _ _ _ ih | keep _ _ _ ih | warn _ _ ih | note _ _ ih | remark _ _ ih => exact ih _

theorem transport_run (b : Bench σ) :
    (body.run b).2.transport = Transport.served b.transport ((body.deeds b).filterMap Deed.request?) :=
  (congrArg Equipment.transport (body.equipment_run b)).trans (Deed.transport_performAll _ _)

theorem clock_run (b : Bench σ) : (body.run b).2.clock = b.clock + body.spent b :=
  congrArg Equipment.clock (body.equipment_run b)

end Body

end Conformance
