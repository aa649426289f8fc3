import Mathlib.Data.List.Permutation
import Conformance.Proofs.Suite.Build

/-!
# What an error of building says

An error names tests that are there and that the selection leads to. The chain of a cycle is all of that
cycle and nothing else: its tests depend on one another all around (`Circular.transGen`), however long the way
is that led there. `error_of_build` says what each error tells.
-/

namespace Conformance

open Relation

namespace Registry

variable (r : Registry) (fixtures : Fixtures)

/-- No registered test provides the property. -/
def Orphan (property : String) : Prop := ∀ d ∈ r.definitions, property ∉ d.provides

/-- No registered test has the name. -/
def Unknown (name : String) : Prop := ∀ d ∈ r.definitions, d.name ≠ name

/-- Each of the tests depends on the next, and the last on the first. -/
def Circular : List TestDefinition → Prop
  | [] => False
  | first :: rest => (first :: rest ++ [first]).IsChain (r.DependsOn fixtures)

variable {r fixtures} {property name : String} {tests : List TestDefinition} {t u : TestDefinition}

theorem orphan_iff (built : r.Built) : r.Orphan property ↔ r.providerOf? property = none := by
  constructor
  · intro orphan
    apply Option.eq_none_iff_forall_ne_some.mpr
    intro d found
    obtain ⟨member, provides⟩ := built.providerOf?_eq_some_iff.mp found
    exact orphan d member provides
  · intro none d member provides
    have found := built.providerOf?_eq_some_iff.mpr ⟨member, provides⟩
    rw [none] at found
    cases found

theorem not_orphan_iff (built : r.Built) : ¬ r.Orphan property ↔ ∃ u, r.providerOf? property = some u := by
  rw [orphan_iff built, ← ne_eq, Option.ne_none_iff_exists']

theorem not_unknown_of_get? (found : r.get? name = some u) : ¬ r.Unknown name := by
  intro unknown
  obtain ⟨member, same⟩ := get?_name found
  exact unknown u member same

/-- Around a cycle, every test leads to every other and to itself. -/
theorem Circular.transGen (circular : r.Circular fixtures tests) (here : t ∈ tests) (there : u ∈ tests) :
    TransGen (r.DependsOn fixtures) t u := by
  cases tests with
  | nil => cases here
  | cons first rest =>
    have all : (first :: rest ++ [first]).Pairwise (TransGen (r.DependsOn fixtures)) :=
      List.isChain_iff_pairwise.mp (List.IsChain.imp (fun _ _ => TransGen.single) circular)
    obtain ⟨forth, -, back⟩ := List.pairwise_append.mp all
    have home := back t here first (List.mem_singleton_self first)
    rcases List.mem_cons.mp there with rfl | further
    · exact home
    · exact home.trans ((List.pairwise_cons.mp forth).1 u further)

theorem circular_of_closes {first last : TestDefinition} {rest : List TestDefinition}
    (chain : (first :: rest).IsChain (r.DependsOn fixtures)) (atEnd : (first :: rest).getLast? = some last)
    (closes : r.DependsOn fixtures last first) : r.Circular fixtures (first :: rest) := by
  apply chain.append (.singleton first)
  intro x isLast y isFirst
  rw [atEnd, Option.mem_some_iff] at isLast
  rw [List.head?_singleton, Option.mem_some_iff] at isFirst
  rw [← isLast, ← isFirst]
  exact closes

end Registry

namespace DependencyGraph

variable {σ : Type} [Transport σ] {r : Registry} {setup : TestSetup} {selected : List TestDefinition}
  {equipment : Equipment σ} {error : SuiteError}

/--
If a graph cannot be built, the error is true of the tests below the selection, with the fixtures that have been
made, among them those of all the tests that the error blames. The chain of a cycle is made up of different tests
that depend on one another all around, so that none is there that only leads to the cycle. A missing property is
the least one that the test requires and no test provides; an unknown dependency is the least one that the test
names and that is not registered, while all that the test requires is provided. There are no other errors.
-/
theorem error_of_build (built : r.Built) (setup : TestSetup) (equipment : Equipment σ)
    (registered : ∀ d ∈ selected, d ∈ r.definitions)
    (failed : (build r setup selected equipment).result = .error error) :
    let construction := build r setup selected equipment
    let fixtures := construction.fixtures
    construction.Agrees fixtures ∧ (∀ name ∈ error.blamed, name ∈ construction.built) ∧
      match error with
      | .circularDependency chain =>
        ∃ first rest, chain = (first :: rest).map TestDefinition.name ∧ chain.Nodup ∧
          r.Reached fixtures selected first ∧ r.Circular fixtures (first :: rest) ∧
          ∀ t ∈ first :: rest, ∀ u ∈ first :: rest, TransGen (r.DependsOn fixtures) t u
      | .missingProperty property requiredBy =>
        ∃ t, t.name = requiredBy ∧ r.Reached fixtures selected t ∧ r.Orphan property ∧
          Registry.Requires fixtures t property ∧
          ∀ other, Registry.Requires fixtures t other → r.Orphan other → ¬ other < property
      | .unknownDependency name requiredBy =>
        ∃ t, t.name = requiredBy ∧ r.Reached fixtures selected t ∧
          (∀ property, Registry.Requires fixtures t property → ¬ r.Orphan property) ∧ r.Unknown name ∧
          name ∈ t.deps ∧ ∀ other ∈ t.deps, r.Unknown other → ¬ other < name
      | _ => False := by
  have sound := build_sound built registered (agrees_fixtures r setup selected equipment)
  rw [failed] at sound
  obtain ⟨fault, blamed⟩ := sound
  refine ⟨agrees_fixtures r setup selected equipment, blamed, ?_⟩
  cases fault with
  | @circularDependency first last rest reached chain atEnd closes once =>
    have circular := Registry.circular_of_closes chain atEnd closes
    exact ⟨first, rest, rfl, once, reached, circular, fun t here u there => circular.transGen here there⟩
  | @missingProperty t property reached requires missing least =>
    refine ⟨t, rfl, reached, (Registry.orphan_iff built).mpr missing, requires, fun other also orphan less => ?_⟩
    exact (Registry.not_orphan_iff built).mpr (least other less also) orphan
  | @unknownDependency t name reached provided named absent least =>
    refine ⟨t, rfl, reached, fun property requires => (Registry.not_orphan_iff built).mpr (provided property requires),
      Registry.get?_eq_none_iff.mp absent, named, fun other also unknown less => ?_⟩
    obtain ⟨u, found⟩ := least other less also
    exact Registry.not_unknown_of_get? found unknown

/-- A test that leads to a cycle of two others is not in the chain. -/
theorem error_of_build_of_leading :
    let a : TestDefinition := ⟨"A", "", ∅, ∅, .ofList ["B"], fun _ => .ofBody (.done .passed)⟩
    let b : TestDefinition := ⟨"B", "", ∅, ∅, .ofList ["A"], fun _ => .ofBody (.done .passed)⟩
    let lead : TestDefinition := ⟨"Lead", "", ∅, ∅, .ofList ["B"], fun _ => .ofBody (.done .passed)⟩
    let r := (Registry.empty.registerAll [a, b, lead] 0).registry
    let setup : TestSetup := ⟨1, .zero, .zero, .empty⟩
    let equipment : Equipment Script := ⟨.ofReplies [], 0, .empty, ∅⟩
    let fixtures := (build r setup [lead] equipment).fixtures
    r.Built ∧ (∀ d ∈ [lead], d ∈ r.definitions) ∧
      (build r setup [lead] equipment).result = .error (.circularDependency ["B", "A"]) ∧
      ∃ first rest, ["B", "A"] = (first :: rest).map TestDefinition.name ∧ r.Reached fixtures [lead] first ∧
        r.Circular fixtures (first :: rest) := by
  intro a b lead r setup equipment fixtures
  have built : r.Built := .registerAll .empty _ _
  have definitions : r.definitions = [a, b, lead] := by subst r; cbv
  have registered : ∀ d ∈ [lead], d ∈ r.definitions := by simp [definitions]
  have failed : (build r setup [lead] equipment).result = .error (.circularDependency ["B", "A"]) := by
    subst r
    cbv
  obtain ⟨-, -, first, rest, names, -, reached, circular, -⟩ := error_of_build built setup equipment registered failed
  exact ⟨built, registered, failed, first, rest, names, reached, circular⟩

end DependencyGraph

end Conformance
