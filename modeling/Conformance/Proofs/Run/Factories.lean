import Conformance.Proofs.Fixture.Factory
import Conformance.Proofs.Run.Selection

/-!
# What the factories do in a run

Before its first turn, a run calls the factories of the tests that it makes fixtures for, one after the other
(`Runner.called`). What they do to the equipment are the deeds `Runner.prepared`, and the turns go on from there
(`equipment_construct`). Nothing else has been done by then: no time has passed, and the log has remarks only.
-/

namespace Conformance

namespace TestDefinition

variable {σ : Type} [Transport σ] {setup : TestSetup} {tests : List TestDefinition} {deed : Deed}

/-- What the factory of the test does to the equipment. -/
def deeds (setup : TestSetup) (d : TestDefinition) (w : Workshop σ) : List Deed := (d.factory setup).deeds w

/-- What the factories of the tests do, called one after the other. -/
def deedsAll (setup : TestSetup) : List TestDefinition → Workshop σ → List Deed
  | [], _ => []
  | d :: rest, w => d.deeds setup w ++ deedsAll setup rest (d.make setup w).2

theorem equipment_makeAll (setup : TestSetup) (tests : List TestDefinition) (w : Workshop σ) :
    (makeAll setup tests w).2.toEquipment = Deed.performAll w.toEquipment (deedsAll setup tests w) := by
  induction tests generalizing w with
  | nil => rfl
  | cons d rest ih =>
    rw [makeAll, deedsAll, Deed.performAll_append, deeds, ← Factory.equipment_run]
    exact ih _

theorem exists_remarks_makeAll (setup : TestSetup) (tests : List TestDefinition) (w : Workshop σ) :
    ∃ remarks : List Remark, (makeAll setup tests w).2.events.toList = w.events.toList ++ remarks.map .remark := by
  induction tests generalizing w with
  | nil => exact ⟨[], (List.append_nil _).symm⟩
  | cons d rest ih =>
    obtain ⟨remarks, logged⟩ := (d.factory setup).exists_remarks w
    obtain ⟨later, logged'⟩ := ih (d.make setup w).2
    refine ⟨remarks ++ later, logged'.trans ?_⟩
    rw [make, logged, List.map_append, List.append_assoc]

theorem exists_of_mem_deedsAll {w : Workshop σ} (member : deed ∈ deedsAll setup tests w) :
    ∃ d ∈ tests, ∃ w' : Workshop σ, deed ∈ d.deeds setup w' := by
  induction tests generalizing w with
  | nil => cases member
  | cons d rest ih =>
    rcases List.mem_append.mp member with first | later
    · exact ⟨d, List.mem_cons_self, w, first⟩
    · obtain ⟨d', there, did⟩ := ih later
      exact ⟨d', List.mem_cons_of_mem _ there, did⟩

/-- Over a transport that is seen as another one, the factories do the same. -/
theorem deedsAll_through {τ : Type} [Transport τ] (v : View σ τ) (tests : List TestDefinition) (w : Workshop σ) :
    deedsAll setup tests (w.through (.map v.see)) = deedsAll setup tests w := by
  induction tests generalizing w with
  | nil => rfl
  | cons d rest ih =>
    have made : d.make setup (w.through (.map v.see)) = _ := (d.factory setup).run_through v w
    rw [deedsAll, deedsAll, deeds, Factory.deeds_through, made, ih]
    rfl

end TestDefinition

namespace Runner

variable {σ : Type} [Transport σ] {r : Runner σ} {options : RunOptions}

/-- The tests whose factories the run calls, in that order. -/
def called (r : Runner σ) (options : RunOptions) : List TestDefinition :=
  (r.construct options).made.map TestNode.definition

/-- What the factories do to the equipment. -/
def prepared (r : Runner σ) (options : RunOptions) : List Deed :=
  TestDefinition.deedsAll r.setup (r.called options) (.open r.toEquipment)

theorem registered_of_called {d : TestDefinition} (member : d ∈ r.called options) : d ∈ r.registry.definitions := by
  obtain ⟨n, made, rfl⟩ := List.mem_map.mp member
  rcases DependencyGraph.known_of_made _ _ _ _ made with registered | candidate
  · exact registered
  · exact registered_of_candidate r options _ candidate

theorem nodup_called : ((r.called options).map TestDefinition.name).Nodup := by
  rw [called, List.map_map]
  exact DependencyGraph.built_nodup r.registry r.setup (r.candidates options) r.toEquipment

theorem equipment_construct (r : Runner σ) (options : RunOptions) :
    (r.construct options).equipment = Deed.performAll r.toEquipment (r.prepared options) := by
  obtain ⟨w, made, left, -⟩ :=
    DependencyGraph.exists_workshop r.registry r.setup (r.candidates options) r.toEquipment
  have worked := TestDefinition.equipment_makeAll r.setup (r.called options) (.open r.toEquipment)
  rw [called, construct, made] at worked
  exact left.trans worked

/-- All that the factories have logged are remarks; building a graph tells its size. -/
theorem exists_remarks (r : Runner σ) (options : RunOptions) :
    ∃ remarks : List Remark, (r.construct options).events =
      remarks.map .remark ++ DependencyGraph.report (r.construct options).result := by
  obtain ⟨w, made, -, -, events⟩ :=
    DependencyGraph.exists_workshop r.registry r.setup (r.candidates options) r.toEquipment
  obtain ⟨remarks, logged⟩ :=
    TestDefinition.exists_remarks_makeAll r.setup (r.called options) (.open r.toEquipment)
  rw [called, construct, made] at logged
  refine ⟨remarks, events.trans (congrArg (· ++ _) logged)⟩

theorem equipment_start (r : Runner σ) (options : RunOptions) :
    (r.start options).toEquipment = Deed.performAll r.toEquipment (r.prepared options) :=
  r.equipment_construct options

theorem clock_start (r : Runner σ) (options : RunOptions) : (r.start options).clock = r.clock :=
  (congrArg Equipment.clock (r.equipment_start options)).trans (Deed.clock_performAll _ _)

theorem transport_start (r : Runner σ) (options : RunOptions) :
    (r.start options).transport =
      Transport.served r.transport ((r.prepared options).filterMap Deed.request?) :=
  (congrArg Equipment.transport (r.equipment_start options)).trans (Deed.transport_performAll _ _)

/-- The factories of all registered tests keep to what is allowed, whenever they are called. -/
def FactoriesKeepTo (r : Runner σ) (allowed : Deed → Prop) : Prop :=
  ∀ d ∈ r.registry.definitions, ∀ w : Workshop σ, ∀ deed ∈ d.deeds r.setup w, allowed deed

namespace FactoriesKeepTo

variable {allowed : Deed → Prop}

theorem deedsAll (keep : r.FactoriesKeepTo allowed) {tests : List TestDefinition}
    (registered : ∀ d ∈ tests, d ∈ r.registry.definitions) (w : Workshop σ) :
    ∀ deed ∈ TestDefinition.deedsAll r.setup tests w, allowed deed := by
  intro deed member
  obtain ⟨d, called, w', did⟩ := TestDefinition.exists_of_mem_deedsAll member
  exact keep d (registered d called) w' deed did

theorem prepared (keep : r.FactoriesKeepTo allowed) : ∀ deed ∈ r.prepared options, allowed deed :=
  keep.deedsAll (fun _ => registered_of_called) _

end FactoriesKeepTo

end Runner

end Conformance
