import Mathlib.Data.List.Nodup
import Conformance.Proofs.Sorted
import Conformance.Suite.Registry

/-!
# Registries that come of registering

`Registry.Built` holds of every registry that registering leads to. In such a registry a name stands
for one definition and a property has one provider: `Built.get?_eq_some_iff` and
`Built.providerOf?_eq_some_iff` say so of the two ways to look a definition up.
-/

namespace Conformance.Registry

/-- The registries that come of accepted definitions, starting with none. -/
inductive Built : Registry → Prop where
  | empty : Built .empty
  | register {r r' : Registry} {d : TestDefinition} : Built r → r.register d = (.ok (), r') → Built r'

variable {r r' : Registry} {d : TestDefinition} {error : SuiteError}

/-- A refusal leaves the registry as it was. -/
theorem register_eq_error (refused : r.register d = (.error error, r')) : r' = r := by
  unfold register at refused
  split at refused
  · exact (congrArg Prod.snd refused).symm
  · split at refused <;> cases refused
    rfl

theorem Built.registerAll (built : r.Built) (definitions : List TestDefinition) (count : Nat) :
    (r.registerAll definitions count).registry.Built := by
  induction definitions generalizing r count with
  | nil => exact built
  | cons d rest ih =>
    unfold Registry.registerAll
    split
    · next refused => exact register_eq_error refused ▸ built
    · next accepted => exact ih (built.register accepted) (count + 1)

/-- The index finds what a search through the definitions finds. -/
theorem get?_eq_find? (r : Registry) (name : String) :
    r.get? name = r.definitions.find? fun d => d.name == name := by
  cases found : r.definitions.find? fun d => d.name == name with
  | none =>
    rw [List.find?_eq_none] at found
    refine Option.eq_none_iff_forall_ne_some.mpr fun d here => ?_
    obtain ⟨member, named⟩ := get?_name here
    exact found d member (beq_iff_eq.mpr named)
  | some d =>
    obtain ⟨i, here⟩ := List.mem_iff_getElem?.mp (List.mem_of_find?_eq_some found)
    have named : d.name = name := by simpa using List.find?_some found
    rw [get?, (r.indexed name i).mpr ⟨d, here, named⟩]
    exact here

theorem contains_iff {name : String} : r.contains name = true ↔ ∃ d, r.get? name = some d := by
  rw [contains, SortedMap.contains_iff]
  constructor
  · rintro ⟨i, known⟩
    obtain ⟨d, here, -⟩ := (r.indexed name i).mp known
    exact ⟨d, Option.bind_eq_some_iff.mpr ⟨i, known, here⟩⟩
  · rintro ⟨d, found⟩
    obtain ⟨i, known, -⟩ := Option.bind_eq_some_iff.mp found
    exact ⟨i, known⟩

theorem get?_eq_none_iff {name : String} : r.get? name = none ↔ ∀ d ∈ r.definitions, d.name ≠ name := by
  simp [get?_eq_find?]

theorem taken?_eq_none_iff {d : TestDefinition} :
    r.taken? d = none ↔ ∀ property ∈ d.provides, r.providers.get? property = none := by
  simp [taken?, List.findSome?_eq_none_iff, SortedSet.mem_def]

theorem get?_foldl_insert (names : List String) (value : String) (m : SortedMap String String) (key : String) :
    (names.foldl (fun m name => m.insert name value) m).get? key =
      if key ∈ names then some value else m.get? key := by
  induction names generalizing m with
  | nil => simp
  | cons head rest ih =>
    rw [List.foldl_cons, ih, SortedMap.get?_insert]
    by_cases inRest : key ∈ rest <;> by_cases atHead : key = head <;> simp [inRest, atHead]

/-- What an accepted definition does to a registry. -/
theorem register_eq_ok (accepted : r.register d = (.ok (), r')) :
    (∀ other ∈ r.definitions, other.name ≠ d.name) ∧
      (∀ property ∈ d.provides, r.providers.get? property = none) ∧
      r'.definitions = r.definitions ++ [d] ∧
      ∀ property, r'.providers.get? property =
        if property ∈ d.provides then some d.name else r.providers.get? property := by
  unfold register at accepted
  split at accepted
  · cases accepted
  · next fresh =>
    split at accepted
    · cases accepted
    · next free =>
      have same : r.add d fresh = r' := congrArg Prod.snd accepted
      subst same
      refine ⟨get?_eq_none_iff.mp ?_, taken?_eq_none_iff.mp free, rfl, fun property => ?_⟩
      · simpa [contains_iff, Option.eq_none_iff_forall_ne_some] using fresh
      · exact get?_foldl_insert _ _ _ _

namespace Built

theorem names_nodup (built : r.Built) : (r.definitions.map TestDefinition.name).Nodup := by
  induction built with
  | empty => exact List.nodup_nil
  | register _ accepted ih =>
    obtain ⟨fresh, -, definitions, -⟩ := register_eq_ok accepted
    rw [definitions, List.map_append, List.nodup_append]
    refine ⟨ih, by simp, ?_⟩
    intro name before other added
    obtain ⟨d, member, rfl⟩ := List.mem_map.mp before
    rw [List.map_singleton, List.mem_singleton] at added
    rw [added]
    exact fresh d member

/-- Two registered definitions of one name are the same. -/
theorem eq_of_name (built : r.Built) {d d' : TestDefinition} (member : d ∈ r.definitions)
    (member' : d' ∈ r.definitions) (same : d.name = d'.name) : d = d' :=
  List.inj_on_of_nodup_map built.names_nodup member member' same

theorem get?_eq_some_iff (built : r.Built) {name : String} {d : TestDefinition} :
    r.get? name = some d ↔ d ∈ r.definitions ∧ d.name = name := by
  constructor
  · exact get?_name
  · rintro ⟨member, rfl⟩
    cases found : r.get? d.name with
    | none => exact absurd rfl (get?_eq_none_iff.mp found d member)
    | some d' =>
      obtain ⟨member', named⟩ := get?_name found
      rw [built.eq_of_name member' member named]

theorem require_name (built : r.Built) {d : TestDefinition} (registered : d ∈ r.definitions) :
    r.require d.name = .ok d := by
  rw [require, built.get?_eq_some_iff.mpr ⟨registered, rfl⟩]

/-- The table of providers holds the names of the definitions that provide a property. -/
theorem providers_get?_eq_some_iff (built : r.Built) {property name : String} :
    r.providers.get? property = some name ↔
      ∃ d ∈ r.definitions, property ∈ d.provides ∧ d.name = name := by
  induction built with
  | empty => simp [Registry.empty, EmptyCollection.emptyCollection]
  | register _ accepted ih =>
    obtain ⟨-, free, definitions, providers⟩ := register_eq_ok accepted
    rw [providers, definitions]
    split
    · next provided =>
      simp only [Option.some.injEq, List.mem_append, List.mem_singleton]
      constructor
      · rintro rfl
        exact ⟨_, .inr rfl, provided, rfl⟩
      · rintro ⟨d, old | rfl, provides, rfl⟩
        · have owned := ih.mpr ⟨d, old, provides, rfl⟩
          rw [free property provided] at owned
          cases owned
        · rfl
    · next notProvided =>
      rw [ih]
      simp only [List.mem_append, List.mem_singleton]
      constructor
      · rintro ⟨d, member, provides⟩
        exact ⟨d, .inl member, provides⟩
      · rintro ⟨d, member | rfl, provides, named⟩
        · exact ⟨d, member, provides, named⟩
        · exact absurd provides notProvided

theorem providerOf?_eq_some_iff (built : r.Built) {property : String} {d : TestDefinition} :
    r.providerOf? property = some d ↔ d ∈ r.definitions ∧ property ∈ d.provides := by
  rw [providerOf?, Option.bind_eq_some_iff]
  constructor
  · rintro ⟨name, owner, found⟩
    obtain ⟨d', member', provides, named⟩ := built.providers_get?_eq_some_iff.mp owner
    obtain ⟨member, same⟩ := built.get?_eq_some_iff.mp found
    rw [built.eq_of_name member member' (same.trans named.symm)]
    exact ⟨member', provides⟩
  · rintro ⟨member, provides⟩
    exact ⟨d.name, built.providers_get?_eq_some_iff.mpr ⟨d, member, provides, rfl⟩,
      built.get?_eq_some_iff.mpr ⟨member, rfl⟩⟩

theorem mem_providedProperties_iff (built : r.Built) {property : String} :
    property ∈ r.providedProperties ↔ ∃ d ∈ r.definitions, property ∈ d.provides := by
  rw [providedProperties, SortedMap.mem_keys_iff]
  simp only [built.providers_get?_eq_some_iff]
  constructor
  · rintro ⟨name, d, member, provides, -⟩
    exact ⟨d, member, provides⟩
  · rintro ⟨d, member, provides⟩
    exact ⟨d.name, d, member, provides, rfl⟩

/-- A property has one provider at most. -/
theorem eq_of_provides (built : r.Built) {d d' : TestDefinition} {property : String}
    (member : d ∈ r.definitions) (member' : d' ∈ r.definitions) (provides : property ∈ d.provides)
    (provides' : property ∈ d'.provides) : d = d' := by
  have first := built.providerOf?_eq_some_iff.mpr ⟨member, provides⟩
  have second := built.providerOf?_eq_some_iff.mpr ⟨member', provides'⟩
  exact Option.some.inj (first.symm.trans second)

end Built

end Conformance.Registry
