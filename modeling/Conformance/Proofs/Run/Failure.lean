import Mathlib.Data.List.Permutation
import Conformance.Proofs.Run.Factories
import Conformance.Proofs.Run.View

/-!
# Runs that cannot be set up

A run fails if a parameter of its drains is not in the catalog or the graph of the selection cannot be built,
and for no other reason (`run_eq_error_iff`). By then no test has had its turn. But the factories have been called
up to where building failed, so the equipment is left with what they did to it (`runner_of_error`): nothing, if they
neither send, nor record, nor put anything aside.
-/

namespace Conformance.Runner

variable {σ : Type} [Transport σ] {r : Runner σ} {options : RunOptions} {startedAt : Timestamp} {debug : Bool}
  {error : SuiteError} {bodies : Bodies}

/-- What keeps a run from being set up: a parameter that is missing, of which the first counts, or else a graph
that cannot be built. -/
inductive Blocked (r : Runner σ) (options : RunOptions) : SuiteError → Prop where
  | queuedMessage : r.catalog.getByName? "QUEUED_MESSAGE" = none →
      Blocked r options (.unknownParameter "QUEUED_MESSAGE")
  | statusMessages : r.catalog.getByName? "QUEUED_MESSAGE" ≠ none → r.catalog.getByName? "STATUS_MESSAGES" = none →
      Blocked r options (.unknownParameter "STATUS_MESSAGES")
  | graph {error : SuiteError} : r.catalog.getByName? "QUEUED_MESSAGE" ≠ none →
      r.catalog.getByName? "STATUS_MESSAGES" ≠ none →
      (r.construct options).result = .error error → Blocked r options error

/-- A fetcher that cannot be made blocks every run, and one that can be made leaves the graph to do so. -/
theorem blocked_iff :
    r.Blocked options error ↔ r.fetcher = .error error ∨
      (∃ fetcher, r.fetcher = .ok fetcher) ∧ (r.construct options).result = .error error := by
  rcases r.fetcher_cases with ⟨queued, unknown⟩ | ⟨queued, status, unknown⟩ | ⟨_, _, queued, status, known⟩
  · rw [unknown]
    constructor
    · rintro (_ | ⟨present, -⟩ | ⟨present, -⟩)
      · exact .inl rfl
      · exact absurd queued present
      · exact absurd queued present
    · rintro (⟨⟨⟩⟩ | ⟨⟨_, ⟨⟩⟩, -⟩)
      exact .queuedMessage queued
  · rw [unknown]
    constructor
    · rintro (missing | - | ⟨-, present⟩)
      · exact absurd missing queued
      · exact .inl rfl
      · exact absurd status present
    · rintro (⟨⟨⟩⟩ | ⟨⟨_, ⟨⟩⟩, -⟩)
      exact .statusMessages queued status
  · rw [known]
    constructor
    · rintro (missing | ⟨-, missing⟩ | ⟨-, -, failed⟩)
      · rw [missing] at queued
        cases queued
      · rw [missing] at status
        cases status
      · exact .inr ⟨⟨_, rfl⟩, failed⟩
    · rintro (⟨⟨⟩⟩ | ⟨-, failed⟩)
      exact .graph (by rw [queued]; nofun) (by rw [status]; nofun) failed

theorem run_of_fetcher_error (unknown : r.fetcher = .error error) :
    r.run options startedAt debug = ⟨.error error, r, [], [], []⟩ := by
  simp only [run, unknown]

theorem run_of_build_error {fetcher : Fetcher} (known : r.fetcher = .ok fetcher)
    (failed : (r.construct options).result = .error error) :
    r.run options startedAt debug =
      ⟨.error error, r.furnish options, [], (r.construct options).notes,
        (r.unknownTests options).map .unknownTest ++ (r.construct options).events⟩ := by
  simp only [run, known, failed, furnish]

theorem run_eq_error_iff : (r.run options startedAt debug).result = .error error ↔ r.Blocked options error := by
  rw [blocked_iff]
  cases known : r.fetcher with
  | error other =>
    rw [run_of_fetcher_error known]
    simp
  | ok fetcher =>
    cases built : (r.construct options).result with
    | error other =>
      rw [run_of_build_error known built]
      simp
    | ok graph =>
      simp only [run, known, built]
      simp [runOrdered]

/-! ### What is left behind -/

/-- The tests whose factories the run calls if it fails: none if its drains cannot be made. -/
def calledInVain (r : Runner σ) (options : RunOptions) : List TestDefinition :=
  match r.fetcher with
  | .error _ => []
  | .ok _ => r.called options

/-- What the factories do to the equipment in a run that fails. -/
def doneInVain (r : Runner σ) (options : RunOptions) : List Deed :=
  TestDefinition.deedsAll r.setup (r.calledInVain options) (.open r.toEquipment)

theorem calledInVain_eq (r : Runner σ) (options : RunOptions) :
    r.calledInVain options = [] ∨ r.calledInVain options = r.called options := by
  rw [calledInVain]
  cases r.fetcher with
  | error _ => exact .inl rfl
  | ok _ => exact .inr rfl

theorem registered_of_calledInVain {d : TestDefinition} (member : d ∈ r.calledInVain options) :
    d ∈ r.registry.definitions := by
  rcases r.calledInVain_eq options with none | called
  · rw [none] at member
    cases member
  · exact registered_of_called (called ▸ member)

theorem nodup_calledInVain : ((r.calledInVain options).map TestDefinition.name).Nodup := by
  rcases r.calledInVain_eq options with none | called
  · rw [none]
    exact List.nodup_nil
  · rw [called]
    exact nodup_called

theorem FactoriesKeepTo.inVain {allowed : Deed → Prop} (keep : r.FactoriesKeepTo allowed) :
    ∀ deed ∈ r.doneInVain options, allowed deed :=
  keep.deedsAll (fun _ => registered_of_calledInVain) _

theorem runner_of_error (failed : (r.run options startedAt debug).result = .error error) :
    (r.run options startedAt debug).runner = r.resume (Deed.performAll r.toEquipment (r.doneInVain options)) ∧
      (r.run options startedAt debug).progress = [] := by
  rw [doneInVain, calledInVain]
  rcases blocked_iff.mp (run_eq_error_iff.mp failed) with unknown | ⟨⟨fetcher, known⟩, unbuilt⟩
  · rw [run_of_fetcher_error unknown, unknown]
    exact ⟨rfl, rfl⟩
  · rw [run_of_build_error known unbuilt, known]
    exact ⟨congrArg r.resume (r.equipment_construct options), rfl⟩

theorem doneInVain_watched (r : Runner σ) (options : RunOptions) :
    r.watched.doneInVain options = r.doneInVain options := by
  have fetcher : r.watched.fetcher = r.fetcher := rfl
  have called : r.watched.called options = r.called options :=
    congrArg (fun c => c.made.map TestNode.definition) (construct_map Watched.forget r.watched options).symm
  have inVain : r.watched.calledInVain options = r.calledInVain options := by
    rw [calledInVain, fetcher, called, calledInVain]
  rw [doneInVain, inVain]
  exact (TestDefinition.deedsAll_through Watched.forget _ (.open r.watched.toEquipment)).symm

/-! ### Other bodies -/

/-- The runner with other bodies for its tests. -/
def withBodies (bodies : Bodies) (r : Runner σ) : Runner σ :=
  { r with registry := r.registry.recast (.ofBodies σ bodies) }

theorem candidates_withBodies (r : Runner σ) (options : RunOptions) :
    (r.withBodies bodies).candidates options = (r.candidates options).map (TestDefinition.withBodies bodies) := by
  unfold candidates withBodies Registry.recast
  cases options.whitelist <;> cases options.skipFactoryDefaults <;> simp only [List.filter_map] <;> rfl

theorem construct_withBodies (r : Runner σ) (options : RunOptions) :
    (r.withBodies bodies).construct options = (r.construct options).recast (.ofBodies σ bodies) := by
  rw [construct, candidates_withBodies]
  exact DependencyGraph.build_recast (.ofBodies σ bodies) r.registry (r.candidates options) r.toEquipment

theorem run_withBodies (failed : (r.run options startedAt debug).result = .error error) :
    (r.withBodies bodies).run options startedAt debug =
      { r.run options startedAt debug with runner := (r.run options startedAt debug).runner.withBodies bodies } := by
  have fetcher : (r.withBodies bodies).fetcher = r.fetcher := rfl
  have unknownTests : (r.withBodies bodies).unknownTests options = r.unknownTests options := rfl
  rcases blocked_iff.mp (run_eq_error_iff.mp failed) with unknown | ⟨⟨fetcher', known⟩, unbuilt⟩
  · rw [run_of_fetcher_error unknown, run_of_fetcher_error (fetcher.trans unknown)]
  · have unbuilt' : ((r.withBodies bodies).construct options).result = .error error := by
      rw [construct_withBodies, DependencyGraph.Construction.recast, unbuilt]
      rfl
    rw [run_of_build_error known unbuilt, run_of_build_error (fetcher.trans known) unbuilt', unknownTests, furnish,
      construct_withBodies]
    rfl

/--
A run fails just if a parameter of its drains or the graph keeps it from being set up, with the reason of that. If it
is a parameter, nothing at all has happened. In any case nobody was told of progress, no time has passed, and whatever
bodies the tests have, the same comes of it. The runner is left with what the factories of some registered tests did
to its equipment, each called at most once: a watch has seen the requests that they sent and no others, and the
response times have grown by those that they recorded. If factories never send, the transport is as it was, if they
never record, the response times are, and if they never put anything aside, what was put aside before is. If they do
none of this, the whole runner is as it was, so any later run comes to what it would have come to.
-/
theorem run_fails_early (r : Runner σ) (options : RunOptions) (startedAt : Timestamp) (debug : Bool) :
    (∀ error, (r.run options startedAt debug).result = .error error ↔ r.Blocked options error) ∧
      ∀ error, (r.run options startedAt debug).result = .error error →
        let failed := r.run options startedAt debug
        let watched := r.watched.run options startedAt debug
        let called := r.calledInVain options
        let deeds := r.doneInVain options
        (∀ unknown, r.fetcher = .error unknown → failed = ⟨.error unknown, r, [], [], []⟩) ∧
        (∀ d ∈ called, d ∈ r.registry.definitions) ∧ (called.map TestDefinition.name).Nodup ∧
        failed.runner = r.resume (Deed.performAll r.toEquipment deeds) ∧
        failed.progress = [] ∧ failed.runner.clock = r.clock ∧
        (∀ bodies, (r.withBodies bodies).run options startedAt debug =
          { failed with runner := failed.runner.withBodies bodies }) ∧
        watched.map Watched.transport = failed ∧
        watched.runner.transport.exchanges.map Exchange.request = deeds.filterMap Deed.request? ∧
        failed.runner.transport = Transport.served r.transport (deeds.filterMap Deed.request?) ∧
        (∀ kind, failed.runner.timing.samples kind =
          r.timing.samples kind ++ deeds.filterMap (Deed.sample? kind)) ∧
        (r.FactoriesKeepTo Deed.Offline →
          watched.runner.transport.exchanges = [] ∧ failed.runner.transport = r.transport) ∧
        (r.FactoriesKeepTo Deed.Untimed → failed.runner.timing = r.timing) ∧
        (r.FactoriesKeepTo Deed.Forgetful → failed.runner.memory = r.memory) ∧
        (r.FactoriesKeepTo Deed.Offline → r.FactoriesKeepTo Deed.Untimed → r.FactoriesKeepTo Deed.Forgetful →
          failed.runner = r ∧
          ∀ options' startedAt' debug',
            failed.runner.run options' startedAt' debug' = r.run options' startedAt' debug') := by
  refine ⟨fun error => run_eq_error_iff, fun error failed => ?_⟩
  obtain ⟨runner, progress⟩ := runner_of_error failed
  have same : _ = r.run options startedAt debug := run_watched r
  have watched : (r.watched.run options startedAt debug).result = .error error :=
    (congrArg RunResult.result same).trans failed
  have transport : (r.run options startedAt debug).runner.transport =
      Transport.served r.transport ((r.doneInVain options).filterMap Deed.request?) :=
    (congrArg (fun r => r.transport) runner).trans (Deed.transport_performAll _ _)
  have exchanges : (r.watched.run options startedAt debug).runner.transport.exchanges.map Exchange.request =
      (r.doneInVain options).filterMap Deed.request? := by
    rw [(runner_of_error watched).1, resume, Deed.transport_performAll, Watched.requests_served, doneInVain_watched]
    rfl
  have nothing (offline : r.FactoriesKeepTo Deed.Offline) : (r.doneInVain options).filterMap Deed.request? = [] :=
    Deed.filterMap_request? offline.inVain
  refine ⟨fun _ => run_of_fetcher_error, fun d => registered_of_calledInVain, nodup_calledInVain, runner, progress,
    (congrArg (fun r => r.clock) runner).trans (Deed.clock_performAll _ _), fun bodies => run_withBodies failed,
    same, exchanges, transport,
    fun kind => (congrArg (fun r => r.timing.samples kind) runner).trans (Deed.samples_performAll _ _ _),
    fun offline => ⟨?_, ?_⟩,
    fun untimed => (congrArg (fun r => r.timing) runner).trans (Deed.timing_performAll _ untimed.inVain),
    fun forgetful => (congrArg (fun r => r.memory) runner).trans (Deed.memory_performAll _ forgetful.inVain),
    fun offline untimed forgetful => ?_⟩
  · exact List.map_eq_nil_iff.mp (exchanges.trans (nothing offline))
  · rw [transport, nothing offline]
    rfl
  · have unchanged : (r.run options startedAt debug).runner = r := by
      rw [runner, Deed.eq_nil_of_none offline.inVain untimed.inVain forgetful.inVain]
      rfl
    exact ⟨unchanged, fun options' startedAt' debug' => by rw [unchanged]⟩

/-- Depends on a test that there is not. -/
def orphanTest (factory : Factory) : TestDefinition := ⟨"Orphan", "", ∅, ∅, .ofList ["Missing"], fun _ => factory⟩

/-- A factory that only makes a fixture leaves nothing behind. -/
theorem run_fails_early_of_orphan :
    let r : Runner Script :=
      { new .default .standard (.ofReplies []) with
        registry := (Registry.empty.registerAll [orphanTest (.ofBody (.done .passed))] 0).registry }
    (r.run ⟨none, false⟩ default false).result = .error (.unknownDependency "Missing" "Orphan") ∧
      (r.run ⟨none, false⟩ default false).runner = r := by
  intro r
  have failed : (r.run ⟨none, false⟩ default false).result = .error (.unknownDependency "Missing" "Orphan") := by
    subst r
    cbv
  have keep (allowed : Deed → Prop) : r.FactoriesKeepTo allowed := by
    intro d member w deed did
    rw [List.mem_singleton.mp member] at did
    cases did
  obtain ⟨-, -, -, -, -, -, -, -, -, -, -, -, -, -, unchanged⟩ :=
    (run_fails_early r ⟨none, false⟩ default false).2 _ failed
  exact ⟨failed, (unchanged (keep _) (keep _) (keep _)).1⟩

/-- Records a response time and puts something aside; if that has been there before, the fixture asks for more. -/
def onceFactory : Factory :=
  .lookUp "made" fun earlier =>
    .record .get (.ofMillis 3) <| .keep "made" (.bool true) <|
      .made { Fixture.ofBody (.done .passed) with extraRequires := if earlier.isSome then ["device_label"] else [] }

/-- A factory that never sends can still leave a response time behind, and the same run comes to another error then. -/
theorem run_fails_with_traces :
    let r : Runner Script :=
      { new .default .standard (.ofReplies []) with
        registry := (Registry.empty.registerAll [orphanTest onceFactory] 0).registry }
    let failed := r.run ⟨none, false⟩ default false
    let again := failed.runner.run ⟨none, false⟩ default false
    r.registry.Built ∧ r.FactoriesKeepTo Deed.Offline ∧
      failed.result = .error (.unknownDependency "Missing" "Orphan") ∧
      r.timing.samples .get = [] ∧ failed.runner.timing.samples .get = [.ofMillis 3] ∧
      again.result = .error (.missingProperty "device_label" "Orphan") ∧ again.result ≠ failed.result := by
  intro r failed again
  have built : r.registry.Built := .registerAll .empty _ _
  have offline : r.FactoriesKeepTo Deed.Offline := by
    intro d member w deed did
    rw [List.mem_singleton.mp member] at did
    have deeds : (orphanTest onceFactory).deeds r.setup w =
        [.measured .get (.ofMillis 3), .kept "made" (.bool true)] := rfl
    rw [deeds] at did
    rcases List.mem_pair.mp did with rfl | rfl <;> trivial
  have error : failed.result = .error (.unknownDependency "Missing" "Orphan") := by
    subst failed r
    cbv
  have left : failed.runner = r.resume
      { r.toEquipment with
        timing := r.timing.record .get (.ofMillis 3), memory := r.memory.insert "made" (.bool true) } := by
    subst failed r
    cbv
  have error' : again.result = .error (.missingProperty "device_label" "Orphan") := by
    subst again
    rw [left]
    subst r
    cbv
  refine ⟨built, offline, error, rfl, ?_, error', ?_⟩
  · rw [left]
    rfl
  · intro same
    rw [error', error] at same
    cases same

end Conformance.Runner
