import Mathlib.Data.List.Nodup
import Conformance.Suite.Graph

/-!
# What builders make

A builder does three things: it enters a test that it has not met, it adds a node, and it sets edges. What these
keep, all of building keeps (`Kept.selectAll`). So a fixture that was made stays, no test has two of them
(`Recorded.nodup`), and the workshop is as the factories have left it, called one after the other for just these
tests (`Recorded.worked`).
-/

namespace Conformance

/-- A fixture for each test. -/
abbrev Fixtures := TestDefinition → Fixture

def TestNode.ofDefinition (fixtures : Fixtures) (d : TestDefinition) : TestNode := .ofFixture d (fixtures d)

theorem Registry.mem_of_require {r : Registry} {name : String} {d : TestDefinition} (found : r.require name = .ok d) :
    d ∈ r.definitions := (get?_name (require_eq_ok found)).1

namespace TestDefinition

variable {σ : Type} [Transport σ] {setup : TestSetup}

/-- Calls the factories of the tests one after the other. -/
def makeAll (setup : TestSetup) : List TestDefinition → Workshop σ → List TestNode × Workshop σ
  | [], w => ([], w)
  | d :: rest, w =>
    let (fixture, w) := d.make setup w
    let (nodes, w) := makeAll setup rest w
    (.ofFixture d fixture :: nodes, w)

theorem makeAll_concat (tests : List TestDefinition) (d : TestDefinition) (w : Workshop σ) :
    makeAll setup (tests ++ [d]) w =
      ((makeAll setup tests w).1 ++ [.ofFixture d (d.make setup (makeAll setup tests w).2).1],
        (d.make setup (makeAll setup tests w).2).2) := by
  induction tests generalizing w with
  | nil => rfl
  | cons first rest ih => simp only [List.cons_append, makeAll, ih]

/-- Every node has the fixture that the factory of its test has made at some time. -/
theorem exists_make_of_mem {tests : List TestDefinition} {w : Workshop σ} {n : TestNode}
    (member : n ∈ (makeAll setup tests w).1) :
    ∃ w' : Workshop σ, n = .ofFixture n.definition (n.definition.make setup w').1 := by
  induction tests generalizing w with
  | nil => cases member
  | cons first rest ih =>
    rcases List.mem_cons.mp member with rfl | later
    · exact ⟨w, rfl⟩
    · exact ih later

end TestDefinition

namespace Builder

variable {σ : Type} [Transport σ] {r : Registry} {setup : TestSetup} {roots : List TestDefinition} {b : Builder σ}
  {d : TestDefinition} {path rest names : List String} {name : String} {targets : SortedSet Nat}

omit [Transport σ] in
def built (b : Builder σ) : List String := b.made.map TestNode.name

/-- The node of a test that the builder meets. -/
def node (b : Builder σ) (setup : TestSetup) (d : TestDefinition) : TestNode := (b.enter setup d).1

/-- The builder after a test has been met and its node has been added. -/
def visit (b : Builder σ) (setup : TestSetup) (d : TestDefinition) : Builder σ :=
  (b.enter setup d).2.pushNode (b.node setup d)

/-! ### The equations of `resolve` and `instantiate` -/

theorem resolve_cycle (again : name ∈ path) :
    resolve r setup path (name :: rest) targets b =
      (.error (.circularDependency (path.dropWhile (· ≠ name))), b) := by
  rw [resolve, dif_pos again]

theorem resolve_unknown {error : SuiteError} (fresh : name ∉ path) (missing : r.require name = .error error) :
    resolve r setup path (name :: rest) targets b = (.error error, b) := by
  rw [resolve, dif_neg fresh]
  split
  · next failed => rw [← Except.error.inj (failed.symm.trans missing)]
  · next found =>
    rw [missing] at found
    cases found

theorem resolve_known (fresh : name ∉ path) (found : r.require name = .ok d) :
    resolve r setup path (name :: rest) targets b =
      match instantiate r setup (path ++ [name]) d b with
      | (.error error, b') => (.error error, b')
      | (.ok index, b') => resolve r setup path rest (targets.insert index) b' := by
  rw [resolve, dif_neg fresh]
  split
  · next failed =>
    rw [found] at failed
    cases failed
  · next d' known =>
    have same : d' = d := Except.ok.inj (known.symm.trans found)
    subst same
    rfl

theorem instantiate_met {i : Nat} (met : b.memo.get? d.name = some i) :
    instantiate r setup path d b = (.ok i, b) := by
  rw [instantiate, met]

theorem instantiate_unresolved {error : SuiteError} (fresh : b.memo.get? d.name = none)
    (failed : r.dependenciesOf (b.node setup d) = .error error) :
    instantiate r setup path d b = (.error error, (b.enter setup d).2) := by
  rw [node] at failed
  rw [instantiate, fresh]
  simp only [failed]

theorem instantiate_resolved {dependencies : SortedSet String}
    (fresh : b.memo.get? d.name = none) (found : r.dependenciesOf (b.node setup d) = .ok dependencies) :
    instantiate r setup path d b =
      match resolve r setup path dependencies.toList ∅ (b.visit setup d) with
      | (.error error, b') => (.error error, b')
      | (.ok targets, b') => (.ok b.graph.size, b'.setEdges b.graph.size targets) := by
  rw [node] at found
  rw [instantiate, fresh]
  simp only [found]
  rfl

/-! ### What building keeps -/

/-- The three things that a builder does keep the property, if it enters registered or selected tests only. -/
structure Kept (r : Registry) (setup : TestSetup) (roots : List TestDefinition) (P : Builder σ → Prop) : Prop where
  enter : ∀ b d, d ∈ r.definitions ∨ d ∈ roots → b.memo.get? d.name = none → P b → P (b.enter setup d).2
  pushNode : ∀ b n, P b → P (b.pushNode n)
  setEdges : ∀ b i targets, P b → P (b.setEdges i targets)

variable {P : Builder σ → Prop}

theorem keeps_resolve
    (below : ∀ name d (b : Builder σ), name ∉ path → r.require name = .ok d → P b →
      P (instantiate r setup (path ++ [name]) d b).2) (holds : P b) :
    P (resolve r setup path names targets b).2 := by
  induction names generalizing targets b with
  | nil =>
    rw [resolve]
    exact holds
  | cons name rest ih =>
    by_cases again : name ∈ path
    · rw [resolve_cycle again]
      exact holds
    · cases found : r.require name with
      | error error =>
        rw [resolve_unknown again found]
        exact holds
      | ok d =>
        have next := below name d b again found holds
        rw [resolve_known again found]
        revert next
        obtain ⟨_ | index, b'⟩ := instantiate r setup (path ++ [name]) d b
        · exact id
        · exact ih

namespace Kept

theorem instantiate (kept : Kept r setup roots P) (known : d ∈ r.definitions ∨ d ∈ roots) (holds : P b) :
    P (instantiate r setup path d b).2 := by
  -- Each test that is put on the path leaves fewer registered tests off it.
  induction left : r.unvisited path using Nat.strongRecOn generalizing path d b with
  | _ left ih =>
    cases fresh : b.memo.get? d.name with
    | some i =>
      rw [instantiate_met fresh]
      exact holds
    | none =>
      have entered := kept.enter b d known fresh holds
      cases found : r.dependenciesOf (b.node setup d) with
      | error error =>
        rw [instantiate_unresolved fresh found]
        exact entered
      | ok dependencies =>
        have visited : P (b.visit setup d) := kept.pushNode _ _ entered
        have below : P (resolve r setup path dependencies.toList ∅ (b.visit setup d)).2 :=
          keeps_resolve (fun name d b apart required holds =>
            ih _ (left ▸ Registry.unvisited_lt apart required) (.inl (Registry.mem_of_require required)) holds rfl)
            visited
        rw [instantiate_resolved fresh found]
        revert below
        obtain ⟨_ | targets, b'⟩ := resolve r setup path dependencies.toList ∅ (b.visit setup d)
        · exact id
        · exact kept.setEdges b' _ _

theorem resolve (kept : Kept r setup roots P) (holds : P b) : P (resolve r setup path names targets b).2 :=
  keeps_resolve (fun _ _ _ _ required => kept.instantiate (.inl (Registry.mem_of_require required))) holds

theorem selectAll (kept : Kept r setup roots P) {selected : List TestDefinition} (within : selected ⊆ roots)
    (holds : P b) : P (selectAll r setup selected b).2 := by
  induction selected generalizing b with
  | nil => exact holds
  | cons d rest ih =>
    obtain ⟨inRoots, restWithin⟩ := List.cons_subset.mp within
    have first : P (Builder.instantiate r setup [d.name] d b).2 := kept.instantiate (.inr inRoots) holds
    rw [Builder.selectAll]
    revert first
    obtain ⟨_ | index, b'⟩ := Builder.instantiate r setup [d.name] d b
    · exact id
    · exact ih restWithin

end Kept

/-! ### Fixtures stay -/

theorem made_enter : (b.enter setup d).2.made = b.made ++ [b.node setup d] := rfl

theorem kept_made (b : Builder σ) : Kept r setup roots fun b' : Builder σ => b.made <+: b'.made where
  enter _ _ _ _ before := before.trans (List.prefix_append _ _)
  pushNode _ _ before := before
  setEdges _ _ _ before := before

theorem made_resolve (b : Builder σ) : b.made <+: (resolve r setup path names targets b).2.made :=
  have kept : Kept r setup [] fun b' : Builder σ => b.made <+: b'.made := kept_made b
  kept.resolve (List.prefix_refl _)

theorem made_selectAll (b : Builder σ) (selected : List TestDefinition) :
    b.made <+: (selectAll r setup selected b).2.made :=
  (kept_made b).selectAll (List.Subset.refl selected) (List.prefix_refl _)

/-! ### The record of the workshop -/

/-- What holds of the fixtures that were made with the equipment. -/
structure Recorded (r : Registry) (setup : TestSetup) (roots : List TestDefinition) (equipment : Equipment σ)
    (b : Builder σ) : Prop where
  known : ∀ n ∈ b.made, n.definition ∈ r.definitions ∨ n.definition ∈ roots
  met : ∀ n ∈ b.made, b.memo.get? n.name ≠ none
  nodup : b.built.Nodup
  worked : TestDefinition.makeAll setup (b.made.map TestNode.definition) (.open equipment) = (b.made, b.workshop)

theorem Recorded.start (equipment : Equipment σ) : Recorded r setup roots equipment (.start equipment) :=
  ⟨nofun, nofun, List.nodup_nil, rfl⟩

theorem kept_recorded (equipment : Equipment σ) : Kept r setup roots (Recorded r setup roots equipment) where
  enter b d known fresh recorded := by
    refine ⟨fun n member => ?_, fun n member => ?_, ?_, ?_⟩
    · rcases List.mem_append.mp member with old | last
      · exact recorded.known n old
      · exact List.mem_singleton.mp last ▸ known
    · show (b.memo.insert d.name b.graph.size).get? n.name ≠ none
      rw [SortedMap.get?_insert]
      split
      · exact nofun
      · next unlike =>
        rcases List.mem_append.mp member with old | last
        · exact recorded.met n old
        · exact absurd (congrArg TestNode.name (List.mem_singleton.mp last)) unlike
    · rw [built, made_enter, List.map_append, List.nodup_append]
      refine ⟨recorded.nodup, List.nodup_singleton _, fun name before other added => ?_⟩
      obtain ⟨n, member, rfl⟩ := List.mem_map.mp before
      rw [List.map_singleton, List.mem_singleton] at added
      intro same
      exact recorded.met n member (by rw [same, added]; exact fresh)
    · have definition : (b.node setup d).definition = d := rfl
      rw [made_enter, List.map_append, List.map_singleton, definition, TestDefinition.makeAll_concat, recorded.worked]
      rfl
  pushNode _ _ recorded := ⟨recorded.known, recorded.met, recorded.nodup, recorded.worked⟩
  setEdges _ _ _ recorded := ⟨recorded.known, recorded.met, recorded.nodup, recorded.worked⟩

end Builder

namespace DependencyGraph

variable {σ : Type}

namespace Construction

/-- The fixture that was made for each test; a test for which none was made has one that asks for nothing. -/
def fixtures (c : Construction σ) : Fixtures := fun d =>
  ((c.made.find? fun n => n.name == d.name).map TestNode.fixture).getD (.ofBody (.done .notRun))

/-- The fixtures that have been made are those that are given. -/
def Agrees (c : Construction σ) (fixtures : Fixtures) : Prop := ∀ n ∈ c.made, n = .ofDefinition fixtures n.definition

end Construction

variable [Transport σ] (r : Registry) (setup : TestSetup) (selected : List TestDefinition) (equipment : Equipment σ)

theorem recorded_selectAll :
    (Builder.selectAll r setup selected (.start equipment)).2.Recorded r setup selected equipment :=
  (Builder.kept_recorded equipment).selectAll (List.Subset.refl selected) (.start equipment)

/-- No fixture is made twice, not even if building fails. -/
theorem built_nodup : (build r setup selected equipment).built.Nodup :=
  (recorded_selectAll r setup selected equipment).nodup

/-- No factory is called but of a registered or selected test. -/
theorem known_of_made {n : TestNode} (member : n ∈ (build r setup selected equipment).made) :
    n.definition ∈ r.definitions ∨ n.definition ∈ selected :=
  (recorded_selectAll r setup selected equipment).known n member

/-- What building tells in the log besides what the factories do. -/
def report : Except SuiteError DependencyGraph → List Event
  | .error _ => []
  | .ok g => [.graphBuilt g.size g.edgeCount]

/-- Building calls the factories of just the tests that it makes fixtures for, one after the other, and that is all. -/
theorem exists_workshop :
    let construction := build r setup selected equipment
    ∃ w : Workshop σ,
      TestDefinition.makeAll setup (construction.made.map TestNode.definition) (.open equipment) =
        (construction.made, w) ∧
      construction.equipment = w.toEquipment ∧ construction.notes = w.notes.toList ∧
      construction.events = w.events.toList ++ report construction.result := by
  have recorded := recorded_selectAll r setup selected equipment
  rw [build]
  revert recorded
  obtain ⟨_ | _, b⟩ := Builder.selectAll r setup selected (.start equipment)
  · exact fun recorded => ⟨b.workshop, recorded.worked, rfl, rfl, rfl⟩
  · exact fun recorded => ⟨b.workshop, recorded.worked, rfl, rfl, rfl⟩

theorem exists_make {n : TestNode} (member : n ∈ (build r setup selected equipment).made) :
    ∃ w : Workshop σ, n = .ofFixture n.definition (n.definition.make setup w).1 := by
  obtain ⟨w, made, -⟩ := exists_workshop r setup selected equipment
  have nodes := congrArg Prod.fst made
  dsimp only at nodes
  rw [← nodes] at member
  exact TestDefinition.exists_make_of_mem member

variable {r setup selected equipment} in
theorem eq_of_made {n n' : TestNode} (member : n ∈ (build r setup selected equipment).made)
    (member' : n' ∈ (build r setup selected equipment).made) (same : n.name = n'.name) : n = n' :=
  List.inj_on_of_nodup_map (built_nodup r setup selected equipment) member member' same

theorem agrees_fixtures :
    (build r setup selected equipment).Agrees (build r setup selected equipment).fixtures := by
  intro n member
  obtain ⟨w, made⟩ := exists_make r setup selected equipment member
  have found : (build r setup selected equipment).made.find? (fun m => m.name == n.name) = some n := by
    cases search : (build r setup selected equipment).made.find? fun m => m.name == n.name with
    | none => exact absurd (beq_self_eq_true n.name) (List.find?_eq_none.mp search n member)
    | some m =>
      have named : m.name = n.name := by simpa using List.find?_some search
      rw [eq_of_made (List.mem_of_find?_eq_some search) member named]
  have fixture : (build r setup selected equipment).fixtures n.definition = n.fixture := by
    rw [Construction.fixtures, ← TestNode.name, found]
    rfl
  rw [TestNode.ofDefinition, fixture]
  rw [made]
  rfl

/-- Fixtures of any kind can be given to the tests for which none was made. -/
theorem exists_agrees (others : Fixtures) : ∃ fixtures : Fixtures,
    (build r setup selected equipment).Agrees fixtures ∧
      ∀ d, fixtures d = others d ∨ ∃ w : Workshop σ, fixtures d = (d.make setup w).1 := by
  classical
  let made (d : TestDefinition) : Prop := ∃ n ∈ (build r setup selected equipment).made, n.definition = d
  refine ⟨fun d => if there : made d then there.choose.fixture else others d, fun n member => ?_, fun d => ?_⟩
  · have there : made n.definition := ⟨n, member, rfl⟩
    obtain ⟨member', same⟩ := there.choose_spec
    have chosen := eq_of_made member' member (congrArg TestDefinition.name same)
    obtain ⟨w, node⟩ := exists_make r setup selected equipment member
    rw [TestNode.ofDefinition, dif_pos there, chosen]
    rw [node]
    rfl
  · by_cases there : made d
    · obtain ⟨member, same⟩ := there.choose_spec
      obtain ⟨w, node⟩ := exists_make r setup selected equipment member
      refine .inr ⟨w, ?_⟩
      simp only [dif_pos there]
      have fixture := congrArg TestNode.fixture node
      rw [same] at fixture
      exact fixture
    · exact .inl (by simp only [dif_neg there])

end DependencyGraph

end Conformance
