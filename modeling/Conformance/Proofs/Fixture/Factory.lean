import Conformance.Fixture.Factory
import Conformance.Proofs.Fixture.Deeds

/-!
# What factories do

What a factory does to the equipment are deeds like those of a body (`equipment_run`), but they take no time. A
factory does the same over a transport that is seen as another one (`run_through`, `deeds_through`), and it does
not look at the bodies of its fixtures (`run_withBody`).
-/

namespace Conformance

def Equipment.map {σ τ : Type} (f : σ → τ) (e : Equipment σ) : Equipment τ :=
  ⟨f e.transport, e.clock, e.timing, e.memory⟩

/-- The workshop with the equipment seen as another one. -/
def Workshop.through {σ τ : Type} (see : Equipment σ → Equipment τ) (w : Workshop σ) : Workshop τ :=
  { see w.toEquipment with notes := w.notes, events := w.events }

def Fixture.withBody (change : Body → Body) (f : Fixture) : Fixture := { f with body := change f.body }

namespace Factory

/-- What the factory does to the equipment when it is carried out in the workshop, in that order. -/
def deeds {σ : Type} [Transport σ] : Factory → Workshop σ → List Deed
  | .made _, _ => []
  | .get request next, w =>
    let (reception, transport) := Transport.get w.transport request
    .sent request :: (next reception.prompt?).deeds
      { w with transport, events := w.events ++ reception.remarks.map Event.remark }
  | .clock next, w => (next w.clock).deeds w
  | .record kind elapsed next, w =>
    .measured kind elapsed :: next.deeds { w with timing := w.timing.record kind elapsed }
  | .samples kind next, w => (next (w.timing.samples kind)).deeds w
  | .lookUp key next, w => (next (w.memory.get? key)).deeds w
  | .keep key value next, w => .kept key value :: next.deeds { w with memory := w.memory.insert key value }
  | .note entry next, w => next.deeds { w with notes := w.notes.push entry }
  | .remark line next, w => next.deeds { w with events := w.events.push (.remark line) }

/-- The factory with other bodies in the fixtures that it makes. -/
def withBody (change : Body → Body) : Factory → Factory
  | .made fixture => .made (fixture.withBody change)
  | .get request next => .get request fun result => (next result).withBody change
  | .clock next => .clock fun nanos => (next nanos).withBody change
  | .record kind elapsed next => .record kind elapsed (next.withBody change)
  | .samples kind next => .samples kind fun elapsed => (next elapsed).withBody change
  | .lookUp key next => .lookUp key fun value => (next value).withBody change
  | .keep key value next => .keep key value (next.withBody change)
  | .note entry next => .note entry (next.withBody change)
  | .remark line next => .remark line (next.withBody change)

variable {σ τ : Type} [Transport σ] [Transport τ] {factory : Factory}

theorem equipment_run (w : Workshop σ) :
    (factory.run w).2.toEquipment = Deed.performAll w.toEquipment (factory.deeds w) := by
  induction factory generalizing w with
  | made => rfl
  | get _ _ ih | clock _ ih | samples _ _ ih | lookUp _ _ ih => exact ih _ _
  | record _ _ _ ih | keep _ _ _ ih | note _ _ ih | remark _ _ ih => exact ih _

/-- Factories log nothing but remarks: their own and those of the transport. -/
theorem exists_remarks (w : Workshop σ) :
    ∃ remarks : List Remark, (factory.run w).2.events.toList = w.events.toList ++ remarks.map .remark := by
  induction factory generalizing w with
  | made => exact ⟨[], (List.append_nil _).symm⟩
  | get request next ih =>
    obtain ⟨later, logged⟩ := ih (Transport.get w.transport request).1.prompt?
      { w with
        transport := (Transport.get w.transport request).2
        events := w.events ++ (Transport.get w.transport request).1.remarks.map Event.remark }
    refine ⟨(Transport.get w.transport request).1.remarks ++ later, logged.trans ?_⟩
    rw [Array.toList_appendList, List.map_append, List.append_assoc]
  | remark line next ih =>
    obtain ⟨later, logged⟩ := ih { w with events := w.events.push (.remark line) }
    refine ⟨line :: later, logged.trans ?_⟩
    rw [Array.toList_push, List.append_assoc]
    rfl
  | clock _ ih | samples _ _ ih | lookUp _ _ ih => exact ih _ _
  | record _ _ _ ih | keep _ _ _ ih | note _ _ ih => exact ih _

theorem run_withBody (change : Body → Body) (w : Workshop σ) :
    (factory.withBody change).run w = ((factory.run w).1.withBody change, (factory.run w).2) := by
  induction factory generalizing w with
  | made => rfl
  | get _ _ ih | clock _ ih | samples _ _ ih | lookUp _ _ ih => exact ih _ _
  | record _ _ _ ih | keep _ _ _ ih | note _ _ ih | remark _ _ ih => exact ih _

theorem run_through (v : View σ τ) (w : Workshop σ) :
    factory.run (w.through (.map v.see)) = ((factory.run w).1, (factory.run w).2.through (.map v.see)) := by
  induction factory generalizing w with
  | made => rfl
  | get request next ih =>
    have asked : Transport.get (w.through (.map v.see)).transport request =
        ((Transport.get w.transport request).1, v.see (Transport.get w.transport request).2) := v.get_see _ _
    rw [run, run, asked, ← ih]
    rfl
  | clock _ ih | samples _ _ ih | lookUp _ _ ih | record _ _ _ ih | keep _ _ _ ih | note _ _ ih | remark _ _ ih =>
    rw [run, run, ← ih]
    rfl

theorem deeds_through (v : View σ τ) (w : Workshop σ) :
    factory.deeds (w.through (.map v.see)) = factory.deeds w := by
  induction factory generalizing w with
  | made => rfl
  | get request next ih =>
    have asked : Transport.get (w.through (.map v.see)).transport request =
        ((Transport.get w.transport request).1, v.see (Transport.get w.transport request).2) := v.get_see _ _
    rw [deeds, deeds, asked]
    dsimp only
    rw [← ih]
    rfl
  | clock _ ih | samples _ _ ih | lookUp _ _ ih | record _ _ _ ih | keep _ _ _ ih | note _ _ ih | remark _ _ ih =>
    rw [deeds, deeds, ← ih]
    rfl

end Factory

end Conformance
