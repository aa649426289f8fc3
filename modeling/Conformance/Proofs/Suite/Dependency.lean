import Mathlib.Data.List.Chain
import Mathlib.Logic.Relation
import Conformance.Proofs.Sorted
import Conformance.Proofs.Suite.Making
import Conformance.Proofs.Suite.Registry

/-!
# What tests depend on

With a fixture for each test, `DependsOn` is the relation between registered tests that a graph is built from, and
`Settles` holds of a test if everything below it resolves and no cycle is below it. A graph that cannot be built
points at a test below the selection for which one of the two fails: `Fault` says which test each
error names, and how.
-/

namespace Conformance

open Relation

/-- The tests that an error blames: those of the cycle, or the one that asks for what is not there. -/
def SuiteError.blamed : SuiteError → List String
  | .circularDependency chain => chain
  | .missingProperty _ requiredBy => [requiredBy]
  | .unknownDependency _ requiredBy => [requiredBy]
  | _ => []

namespace Registry

variable (r : Registry) (fixtures : Fixtures)

/-- The definition or its fixture requires the property. -/
def Requires (t : TestDefinition) (property : String) : Prop :=
  property ∈ t.requires ∨ property ∈ (fixtures t).extraRequires

/-- The first test requires a property that the second one provides, or names the second one. -/
inductive DependsOn (t u : TestDefinition) : Prop where
  | provider {property : String} : Requires fixtures t property → r.providerOf? property = some u → DependsOn t u
  | named : u.name ∈ t.deps → r.get? u.name = some u → DependsOn t u

/-- There is a test for everything that the definition and its fixture ask for. -/
structure Resolves (t : TestDefinition) : Prop where
  providers : ∀ property, Requires fixtures t property → ∃ u, r.providerOf? property = some u
  deps : ∀ name ∈ t.deps, ∃ u, r.get? name = some u

/-- The test and all that it leads to resolve, and no path from it goes on for ever. -/
inductive Settles : TestDefinition → Prop where
  | intro {t : TestDefinition} : r.Resolves fixtures t → (∀ u, r.DependsOn fixtures t u → Settles u) → Settles t

/-- The test is selected, or a selected test leads to it. -/
def Reached (roots : List TestDefinition) (t : TestDefinition) : Prop :=
  ∃ root ∈ roots, ReflTransGen (r.DependsOn fixtures) root t

variable {r fixtures} {t u : TestDefinition} {roots : List TestDefinition}

theorem DependsOn.get? (built : r.Built) (depends : r.DependsOn fixtures t u) : r.get? u.name = some u := by
  cases depends with
  | provider _ provided =>
    exact built.get?_eq_some_iff.mpr ⟨(built.providerOf?_eq_some_iff.mp provided).1, rfl⟩
  | named _ found => exact found

theorem DependsOn.registered (built : r.Built) (depends : r.DependsOn fixtures t u) : u ∈ r.definitions :=
  (built.get?_eq_some_iff.mp (depends.get? built)).1

theorem Reached.root (member : t ∈ roots) : r.Reached fixtures roots t := ⟨t, member, .refl⟩

theorem Reached.step (reached : r.Reached fixtures roots t) (depends : r.DependsOn fixtures t u) :
    r.Reached fixtures roots u := by
  obtain ⟨root, member, path⟩ := reached
  exact ⟨root, member, path.tail depends⟩

theorem Reached.registered (reached : r.Reached fixtures roots t) (built : r.Built)
    (registered : ∀ d ∈ roots, d ∈ r.definitions) : t ∈ r.definitions := by
  obtain ⟨root, member, path⟩ := reached
  induction path with
  | refl => exact registered root member
  | tail _ depends _ => exact depends.registered built

namespace Settles

theorem resolves (settles : r.Settles fixtures t) : r.Resolves fixtures t := by
  cases settles with
  | intro resolves _ => exact resolves

theorem step (settles : r.Settles fixtures t) (depends : r.DependsOn fixtures t u) : r.Settles fixtures u := by
  cases settles with
  | intro _ below => exact below u depends

theorem reaches (settles : r.Settles fixtures t) (path : ReflTransGen (r.DependsOn fixtures) t u) :
    r.Settles fixtures u := by
  induction path with
  | refl => exact settles
  | tail _ depends ih => exact ih.step depends

theorem of_free (requires : ∀ property, ¬ Requires fixtures t property) (deps : ∀ name, name ∉ t.deps) :
    r.Settles fixtures t := by
  refine .intro ⟨fun property required => absurd required (requires property),
    fun name named => absurd named (deps name)⟩ fun u depends => ?_
  cases depends with
  | provider required _ => exact absurd required (requires _)
  | named named _ => exact absurd named (deps _)

/-- No cycle goes through a test that settles. -/
theorem acyclic (settles : r.Settles fixtures t) : ¬ TransGen (r.DependsOn fixtures) t t := by
  induction settles with
  | intro _ _ ih =>
    intro cycle
    obtain ⟨u, depends, back⟩ := TransGen.head'_iff.mp cycle
    exact ih u depends (TransGen.tail' back depends)

end Settles

/-! ### Fixtures that ask for the same -/

section Alike

variable {fixtures' : Fixtures}

theorem resolves_of_alike (same : (fixtures t).extraRequires = (fixtures' t).extraRequires)
    (resolves : r.Resolves fixtures t) : r.Resolves fixtures' t := by
  refine ⟨fun property requires => resolves.providers property ?_, resolves.deps⟩
  rwa [Requires, same]

theorem dependsOn_of_alike (same : (fixtures t).extraRequires = (fixtures' t).extraRequires)
    (depends : r.DependsOn fixtures t u) : r.DependsOn fixtures' t u := by
  cases depends with
  | provider requires provided =>
    rw [Requires, same] at requires
    exact .provider requires provided
  | named named found => exact .named named found

variable (same : ∀ d, r.Reached fixtures roots d → (fixtures d).extraRequires = (fixtures' d).extraRequires)

include same

theorem dependsOn_iff_of_alike (reached : r.Reached fixtures roots t) :
    r.DependsOn fixtures t u ↔ r.DependsOn fixtures' t u :=
  ⟨dependsOn_of_alike (same t reached), dependsOn_of_alike (same t reached).symm⟩

theorem reached_iff_of_alike : r.Reached fixtures' roots t ↔ r.Reached fixtures roots t := by
  constructor
  · rintro ⟨root, member, path⟩
    induction path with
    | refl => exact .root member
    | tail _ depends ih => exact ih.step ((dependsOn_iff_of_alike same ih).mpr depends)
  · rintro ⟨root, member, path⟩
    induction path with
    | refl => exact .root member
    | tail path depends ih => exact ih.step ((dependsOn_iff_of_alike same ⟨root, member, path⟩).mp depends)

/-- Below the selection the same paths lead from test to test. -/
theorem transGen_iff_of_alike (reached : r.Reached fixtures roots t) :
    TransGen (r.DependsOn fixtures) t u ↔ TransGen (r.DependsOn fixtures') t u := by
  constructor
  · intro path
    induction path using TransGen.head_induction_on with
    | single depends => exact .single ((dependsOn_iff_of_alike same reached).mp depends)
    | head depends _ ih => exact .head ((dependsOn_iff_of_alike same reached).mp depends) (ih (reached.step depends))
  · intro path
    induction path using TransGen.head_induction_on with
    | single depends => exact .single ((dependsOn_iff_of_alike same reached).mpr depends)
    | head depends _ ih =>
      replace depends := (dependsOn_iff_of_alike same reached).mpr depends
      exact .head depends (ih (reached.step depends))

end Alike

/-! ### Errors as witnesses -/

/-- What an error of building a graph for the selected tests says about the tests. -/
inductive Fault (r : Registry) (fixtures : Fixtures) (roots : List TestDefinition) : SuiteError → Prop where
  | missingProperty {t : TestDefinition} {property : String} :
      r.Reached fixtures roots t → Requires fixtures t property → r.providerOf? property = none →
      (∀ other < property, Requires fixtures t other → ∃ u, r.providerOf? other = some u) →
      Fault r fixtures roots (.missingProperty property t.name)
  | unknownDependency {t : TestDefinition} {name : String} :
      r.Reached fixtures roots t → (∀ property, Requires fixtures t property → ∃ u, r.providerOf? property = some u) →
      name ∈ t.deps → r.get? name = none →
      (∀ other < name, other ∈ t.deps → ∃ u, r.get? other = some u) →
      Fault r fixtures roots (.unknownDependency name t.name)
  | circularDependency {first last : TestDefinition} {rest : List TestDefinition} :
      r.Reached fixtures roots first → (first :: rest).IsChain (r.DependsOn fixtures) →
      (first :: rest).getLast? = some last → r.DependsOn fixtures last first →
      ((first :: rest).map TestDefinition.name).Nodup →
      Fault r fixtures roots (.circularDependency ((first :: rest).map TestDefinition.name))

/-- Behind every fault there is a test below the selection that does not resolve or is on a cycle. -/
theorem Fault.exists_test {error : SuiteError} (fault : r.Fault fixtures roots error) :
    ∃ t, r.Reached fixtures roots t ∧ ¬ (r.Resolves fixtures t ∧ ¬ TransGen (r.DependsOn fixtures) t t) := by
  cases fault with
  | missingProperty reached requires orphan _ =>
    refine ⟨_, reached, fun ⟨resolves, _⟩ => ?_⟩
    obtain ⟨u, found⟩ := resolves.providers _ requires
    rw [orphan] at found
    cases found
  | unknownDependency reached _ named absent _ =>
    refine ⟨_, reached, fun ⟨resolves, _⟩ => ?_⟩
    obtain ⟨u, found⟩ := resolves.deps _ named
    rw [absent] at found
    cases found
  | @circularDependency first last rest reached chain atEnd closes _ =>
    refine ⟨first, reached, fun ⟨_, acyclic⟩ => acyclic ?_⟩
    have path : ReflTransGen (r.DependsOn fixtures) first last := by
      have along := List.relationReflTransGen_of_exists_isChain_cons rest chain rfl
      rw [List.getLast?_eq_some_getLast (List.cons_ne_nil _ _)] at atEnd
      exact Option.some.inj atEnd ▸ along
    exact TransGen.tail' path closes

/-! ### The names that a node depends on -/

theorem providersOf_eq_ok {requiredBy : String} {properties names : List String}
    (found : r.providersOf requiredBy properties = .ok names) :
    (∀ property ∈ properties, ∃ u, r.providerOf? property = some u) ∧
      ∀ name, name ∈ names ↔ ∃ property ∈ properties, ∃ u, r.providerOf? property = some u ∧ u.name = name := by
  induction properties generalizing names with
  | nil =>
    have none : names = [] := (Except.ok.inj found).symm
    simp [none]
  | cons property rest ih =>
    unfold providersOf at found
    split at found
    · cases found
    · next provider provided =>
      cases others : r.providersOf requiredBy rest with
      | error error =>
        rw [others] at found
        cases found
      | ok names' =>
        rw [others] at found
        have same : names = provider.name :: names' := (Except.ok.inj found).symm
        obtain ⟨resolved, members⟩ := ih others
        subst same
        refine ⟨?_, fun name => ?_⟩
        · intro other member
          rcases List.mem_cons.mp member with rfl | member
          · exact ⟨provider, provided⟩
          · exact resolved other member
        · rw [List.mem_cons, members]
          simp [provided, eq_comm]

theorem providersOf_eq_error {requiredBy : String} {properties : List String} {error : SuiteError}
    (failed : r.providersOf requiredBy properties = .error error) :
    ∃ before property after, properties = before ++ property :: after ∧ r.providerOf? property = none ∧
      (∀ other ∈ before, ∃ u, r.providerOf? other = some u) ∧ error = .missingProperty property requiredBy := by
  induction properties with
  | nil => cases failed
  | cons property rest ih =>
    unfold providersOf at failed
    split at failed
    · next orphan => exact ⟨[], property, rest, rfl, orphan, by simp, (Except.error.inj failed).symm⟩
    · next provider provided =>
      cases others : r.providersOf requiredBy rest with
      | ok names =>
        rw [others] at failed
        cases failed
      | error error' =>
        rw [others] at failed
        have same : error' = error := Except.error.inj failed
        obtain ⟨before, missing, after, split, orphan, resolved, named⟩ := ih (others.trans (by rw [same]))
        refine ⟨property :: before, missing, after, by rw [split]; rfl, orphan, ?_, named⟩
        intro other member
        rcases List.mem_cons.mp member with rfl | member
        · exact ⟨provider, provided⟩
        · exact resolved other member

theorem mem_requires_ofDefinition {d : TestDefinition} {property : String} :
    property ∈ (TestNode.ofDefinition fixtures d).requires ↔ Requires fixtures d property := by
  simp only [TestNode.ofDefinition, TestNode.ofFixture, SortedSet.mem_insertMany, Requires]
  exact or_comm

theorem mem_requires_iff {n : TestNode} {d : TestDefinition} (atD : n = .ofDefinition fixtures d) {property : String} :
    property ∈ n.requires ↔ Requires fixtures d property := by
  rw [atD]
  exact mem_requires_ofDefinition

/-- A node that resolves depends on just the tests that its definition depends on. -/
theorem dependenciesOf_eq_ok {d : TestDefinition} {dependencies : SortedSet String}
    (found : r.dependenciesOf (.ofDefinition fixtures d) = .ok dependencies) :
    r.Resolves fixtures d ∧ ∀ name, name ∈ dependencies ↔ ∃ u, r.DependsOn fixtures d u ∧ u.name = name := by
  unfold dependenciesOf at found
  split at found
  · cases found
  · next providers provided =>
    obtain ⟨resolved, members⟩ := providersOf_eq_ok provided
    split at found
    · cases found
    · next known =>
      have same : _ = dependencies := Except.ok.inj found
      subst same
      have registered : ∀ name ∈ d.deps, ∃ u, r.get? name = some u := by
        intro name member
        have kept := List.find?_eq_none.mp known name member
        rw [Bool.not_eq_true, Bool.not_eq_false'] at kept
        exact contains_iff.mp kept
      refine ⟨⟨fun property requires => resolved property (mem_requires_ofDefinition.mpr requires), registered⟩,
        fun name => ?_⟩
      rw [SortedSet.mem_ofList, List.mem_append, members]
      constructor
      · rintro (⟨property, member, u, provides, rfl⟩ | named)
        · exact ⟨u, .provider (mem_requires_ofDefinition.mp member) provides, rfl⟩
        · obtain ⟨u, registered⟩ := registered name named
          have same := (get?_name registered).2
          subst same
          exact ⟨u, .named named registered, rfl⟩
      · rintro ⟨u, depends, rfl⟩
        cases depends with
        | provider requires provides =>
          exact .inl ⟨_, mem_requires_ofDefinition.mpr requires, u, provides, rfl⟩
        | named named _ => exact .inr named

/-- A node that does not resolve is to blame for the error. -/
theorem dependenciesOf_eq_error {d : TestDefinition} {error : SuiteError} (reached : r.Reached fixtures roots d)
    (failed : r.dependenciesOf (.ofDefinition fixtures d) = .error error) : r.Fault fixtures roots error := by
  unfold dependenciesOf at failed
  split at failed
  · next error' orphaned =>
    have same : error' = error := Except.error.inj failed
    subst same
    obtain ⟨before, property, after, properties, orphan, resolved, rfl⟩ := providersOf_eq_error orphaned
    refine .missingProperty (t := d) reached (mem_requires_ofDefinition.mp ?_) orphan fun other less requires => ?_
    · rw [SortedSet.mem_def, properties]
      exact List.mem_append_right _ List.mem_cons_self
    · have member := mem_requires_ofDefinition.mpr requires
      exact resolved other ((SortedSet.mem_before_iff properties).mpr ⟨member, less⟩)
  · next providers provided =>
    obtain ⟨resolved, -⟩ := providersOf_eq_ok provided
    split at failed
    · next name unknown =>
      have same : _ = error := Except.error.inj failed
      subst same
      obtain ⟨named, absent, known⟩ := SortedSet.find?_eq_some_iff.mp unknown
      refine .unknownDependency (t := d) reached
        (fun property requires => resolved property (mem_requires_ofDefinition.mpr requires)) named ?_ ?_
      · refine Option.eq_none_iff_forall_ne_some.mpr fun u found => ?_
        simp [contains_iff.mpr ⟨u, found⟩] at absent
      · intro other less member
        have registered := known other less member
        exact contains_iff.mp (by simpa using registered)
    · cases failed

theorem blamed_of_dependenciesOf {n : TestNode} {error : SuiteError} (failed : r.dependenciesOf n = .error error) :
    error.blamed = [n.name] := by
  unfold dependenciesOf at failed
  split at failed
  · next orphaned =>
    obtain ⟨_, _, _, -, -, -, same⟩ := providersOf_eq_error orphaned
    rw [← Except.error.inj failed, same]
    rfl
  · split at failed
    · rw [← Except.error.inj failed]
      rfl
    · cases failed

end Registry

end Conformance
