import Conformance.Proofs.Sorted
import Conformance.Proofs.Suite.Registry

/-!
# Registries after any calls

`accepted` goes through the calls with nothing but the two rules: no name twice, and no property from two
tests. `register_history` says that the registry after the calls holds just these definitions, finds them
by name and by property, and refuses a definition that breaks a rule without a trace of it.
-/

namespace Conformance.Registry

/-- The two ways to register. -/
inductive Call where
  | register (d : TestDefinition)
  | registerAll (definitions : List TestDefinition)

def call (r : Registry) : Call → Registry
  | .register d => (r.register d).2
  | .registerAll definitions => (r.registerAll definitions 0).registry

/-- The registry after the calls, any of which may have failed. -/
def after (r : Registry) (calls : List Call) : Registry := calls.foldl call r

/-! ### The two rules -/

/-- No other definition has the name, or provides a property that is provided here. -/
structure Fits (others : List TestDefinition) (d : TestDefinition) : Prop where
  name : ∀ other ∈ others, other.name ≠ d.name
  provides : ∀ other ∈ others, ∀ property ∈ other.provides.toList, property ∉ d.provides

instance (others : List TestDefinition) (d : TestDefinition) : Decidable (Fits others d) :=
  decidable_of_iff ((∀ other ∈ others, other.name ≠ d.name) ∧
    ∀ other ∈ others, ∀ property ∈ other.provides.toList, property ∉ d.provides)
    ⟨fun ⟨name, provides⟩ => ⟨name, provides⟩, fun ⟨name, provides⟩ => ⟨name, provides⟩⟩

/-- Which rule a definition breaks, as the refusal tells it: the name comes first, then the least property. -/
inductive Refused (others : List TestDefinition) (d : TestDefinition) : SuiteError → Prop where
  | duplicateTest {other : TestDefinition} : other ∈ others → other.name = d.name →
      Refused others d (.duplicateTest d.name)
  | duplicateProperty {property : String} {owner : TestDefinition} : (∀ other ∈ others, other.name ≠ d.name) →
      property ∈ d.provides → owner ∈ others → property ∈ owner.provides →
      (∀ less < property, less ∈ d.provides → ∀ other ∈ others, less ∉ other.provides) →
      Refused others d (.duplicateProperty property owner.name d.name)

/-- What stands when more definitions are offered: they are taken up to the first that does not fit. -/
def accept (others : List TestDefinition) : List TestDefinition → List TestDefinition
  | [] => others
  | d :: rest => if Fits others d then accept (others ++ [d]) rest else others

def Call.offered : Call → List TestDefinition
  | .register d => [d]
  | .registerAll definitions => definitions

/-- The definitions that stand after the calls. -/
def accepted (calls : List Call) : List TestDefinition :=
  calls.foldl (fun others c => accept others c.offered) []

variable {r r' : Registry} {d : TestDefinition} {error error' : SuiteError} {others : List TestDefinition}

theorem register_eq_of_error (refused : (r.register d).1 = .error error) : r.register d = (.error error, r) := by
  have same := register_eq_error (Prod.ext refused rfl : r.register d = (.error error, (r.register d).2))
  exact Prod.ext refused same

theorem Refused.not_fits (refused : Refused others d error) : ¬ Fits others d := by
  intro fits
  cases refused with
  | duplicateTest member same => exact fits.name _ member same
  | duplicateProperty _ provides member owned _ => exact fits.provides _ member _ owned provides

/-! ### One definition -/

namespace Built

variable (built : r.Built)

include built

theorem providers_get?_eq_none_iff {property : String} :
    r.providers.get? property = none ↔ ∀ other ∈ r.definitions, property ∉ other.provides := by
  constructor
  · intro free other member provides
    have owned := built.providers_get?_eq_some_iff.mpr ⟨other, member, provides, rfl⟩
    rw [free] at owned
    cases owned
  · intro unowned
    cases found : r.providers.get? property with
    | none => rfl
    | some name =>
      obtain ⟨other, member, provides, -⟩ := built.providers_get?_eq_some_iff.mp found
      exact absurd provides (unowned other member)

theorem contains_iff_mem {name : String} : r.contains name = true ↔ ∃ d ∈ r.definitions, d.name = name := by
  rw [contains_iff]
  simp only [built.get?_eq_some_iff]

theorem refused_of_register (failed : (r.register d).1 = .error error) : Refused r.definitions d error := by
  unfold Registry.register at failed
  split at failed
  · next taken =>
    obtain ⟨other, member, same⟩ := built.contains_iff_mem.mp taken
    rw [← Except.error.inj failed]
    exact .duplicateTest member same
  · next fresh =>
    have unlike : ∀ other ∈ r.definitions, other.name ≠ d.name := by
      intro other member same
      exact fresh (built.contains_iff_mem.mpr ⟨other, member, same⟩)
    split at failed
    · next property existing taken =>
      obtain ⟨found, provides, owned, free⟩ := SortedSet.findSome?_eq_some taken
      obtain ⟨name, provider, pair⟩ := Option.map_eq_some_iff.mp owned
      obtain ⟨rfl, rfl⟩ := Prod.mk.inj pair
      obtain ⟨owner, member, owns, rfl⟩ := built.providers_get?_eq_some_iff.mp provider
      rw [← Except.error.inj failed]
      refine .duplicateProperty unlike provides member owns fun less smaller here => ?_
      exact built.providers_get?_eq_none_iff.mp (Option.map_eq_none_iff.mp (free less smaller here))
    · cases failed

theorem fits_of_register (registered : r.register d = (.ok (), r')) :
    Fits r.definitions d ∧ r'.definitions = r.definitions ++ [d] := by
  obtain ⟨fresh, free, definitions, -⟩ := register_eq_ok registered
  refine ⟨⟨fresh, fun other member property owns provides => ?_⟩, definitions⟩
  exact built.providers_get?_eq_none_iff.mp (free property provides) other member owns

/-- The rules leave no choice of what a refusal says. -/
theorem refused_unique (refused : Refused r.definitions d error) (refused' : Refused r.definitions d error') :
    error = error' := by
  cases refused with
  | duplicateTest member same =>
    cases refused' with
    | duplicateTest => rfl
    | duplicateProperty fresh => exact absurd same (fresh _ member)
  | @duplicateProperty property owner fresh provides member owns least =>
    cases refused' with
    | duplicateTest member' same => exact absurd same (fresh _ member')
    | @duplicateProperty property' owner' _ provides' member' owns' least' =>
      rcases Std.lt_trichotomy property property' with less | rfl | greater
      · exact absurd owns (least' property less provides owner member)
      · rw [built.eq_of_provides member member' owns owns']
      · exact absurd owns' (least property' greater provides' owner' member')

theorem register_eq_error_iff : (r.register d).1 = .error error ↔ Refused r.definitions d error := by
  refine ⟨built.refused_of_register, fun refused => ?_⟩
  cases done : (r.register d).1 with
  | ok => exact absurd (built.fits_of_register (Prod.ext done rfl)).1 refused.not_fits
  | error error' => rw [built.refused_unique refused (built.refused_of_register done)]

theorem register_fails_iff :
    (∃ error, (r.register d).1 = .error error) ↔
      (∃ other ∈ r.definitions, other.name = d.name) ∨
        ∃ owner ∈ r.definitions, ∃ property ∈ d.provides, property ∈ owner.provides := by
  constructor
  · rintro ⟨error, failed⟩
    cases built.refused_of_register failed with
    | duplicateTest member same => exact .inl ⟨_, member, same⟩
    | duplicateProperty _ provides member owns _ => exact .inr ⟨_, member, _, provides, owns⟩
  · intro taken
    cases done : (r.register d).1 with
    | error error => exact ⟨error, rfl⟩
    | ok =>
      obtain ⟨name, provides⟩ := (built.fits_of_register (Prod.ext done rfl)).1
      rcases taken with ⟨other, member, same⟩ | ⟨owner, member, property, here, owns⟩
      · exact absurd same (name other member)
      · exact absurd here (provides owner member property owns)

end Built

/-! ### Several definitions -/

theorem call_eq_registerAll (r : Registry) (c : Call) : r.call c = (r.registerAll c.offered 0).registry := by
  cases c with
  | registerAll definitions => rfl
  | register d =>
    rw [call, Call.offered, registerAll]
    obtain ⟨_ | _, r'⟩ := r.register d <;> rfl

/-- Registering several definitions is registering them one by one up to the first that is refused. -/
theorem registerAll_stops (r : Registry) (definitions : List TestDefinition) (count : Nat) :
    ∃ early late, definitions = early ++ late ∧
      (r.registerAll definitions count).registry = r.after (early.map .register) ∧
      (r.after (early.map .register)).definitions = r.definitions ++ early ∧
      match late with
      | [] => (r.registerAll definitions count).result = .ok (count + definitions.length)
      | d :: _ => ∃ error, ((r.after (early.map .register)).register d).1 = .error error ∧
          (r.registerAll definitions count).result = .error error := by
  induction definitions generalizing r count with
  | nil => exact ⟨[], [], rfl, rfl, (List.append_nil _).symm, rfl⟩
  | cons d rest ih =>
    rw [registerAll]
    rcases done : r.register d with ⟨error | _, r'⟩
    · obtain rfl := register_eq_error done
      exact ⟨[], d :: rest, rfl, rfl, (List.append_nil _).symm, error, congrArg Prod.fst done, rfl⟩
    · obtain ⟨early, late, split, registry, definitions, ending⟩ := ih r' (count + 1)
      have first : r.after ((d :: early).map .register) = r'.after (early.map .register) := by
        rw [List.map_cons, after, List.foldl_cons, call, done]
        rfl
      refine ⟨d :: early, late, by rw [split, List.cons_append], registry.trans first.symm, ?_, ?_⟩
      · rw [first, definitions, (register_eq_ok done).2.2.1, List.append_assoc, List.singleton_append]
      · rw [first]
        cases late with
        | nil => exact ending.trans (by rw [List.length_cons, Nat.add_assoc, Nat.add_comm 1])
        | cons => exact ending

theorem Built.definitions_registerAll (built : r.Built) (definitions : List TestDefinition) (count : Nat) :
    (r.registerAll definitions count).registry.definitions = accept r.definitions definitions := by
  induction definitions generalizing r count with
  | nil => rfl
  | cons d rest ih =>
    rw [Registry.registerAll, accept]
    rcases done : r.register d with ⟨error | _, r'⟩
    · rw [if_neg (built.refused_of_register (congrArg Prod.fst done)).not_fits, register_eq_error done]
    · obtain ⟨fits, definitions⟩ := built.fits_of_register done
      rw [if_pos fits, ← definitions]
      exact ih (built.register done) (count + 1)

theorem Built.after (built : r.Built) (calls : List Call) :
    (r.after calls).Built ∧
      (r.after calls).definitions = calls.foldl (fun others c => accept others c.offered) r.definitions := by
  induction calls generalizing r with
  | nil => exact ⟨built, rfl⟩
  | cons c rest ih =>
    have next : (r.call c).Built := by
      rw [call_eq_registerAll]
      exact built.registerAll _ _
    obtain ⟨builtRest, definitions⟩ := ih next
    rw [Registry.after, List.foldl_cons, List.foldl_cons, ← built.definitions_registerAll c.offered 0,
      ← call_eq_registerAll]
    exact ⟨builtRest, definitions⟩

/--
After any calls the registry holds the definitions that fitted, in the order in which they came, and both
ways to look one up agree with that list. A definition is refused just if it does not fit, for the reason
that the rules give, and then nothing changes; of several definitions those before the first that is refused
are taken one by one, and none after it.
-/
theorem register_history (calls : List Call) :
    (empty.after calls).definitions = accepted calls ∧ ((accepted calls).map TestDefinition.name).Nodup ∧
      (∀ name, (∀ d, (empty.after calls).get? name = some d ↔ d ∈ accepted calls ∧ d.name = name) ∧
        ((empty.after calls).contains name = true ↔ ∃ d ∈ accepted calls, d.name = name)) ∧
      (∀ property,
        (∀ d, (empty.after calls).providerOf? property = some d ↔ d ∈ accepted calls ∧ property ∈ d.provides) ∧
          (property ∈ (empty.after calls).providedProperties ↔ ∃ d ∈ accepted calls, property ∈ d.provides)) ∧
      (empty.after calls).providedProperties.Pairwise (· < ·) ∧
      (∀ d, ((∃ error, ((empty.after calls).register d).1 = .error error) ↔
          (∃ other ∈ accepted calls, other.name = d.name) ∨
            ∃ owner ∈ accepted calls, ∃ property ∈ d.provides, property ∈ owner.provides) ∧
        ∀ error, (((empty.after calls).register d).1 = .error error ↔ Refused (accepted calls) d error) ∧
          (((empty.after calls).register d).1 = .error error →
            empty.after (calls ++ [.register d]) = empty.after calls)) ∧
      ∀ definitions, ∃ early late, definitions = early ++ late ∧
        empty.after (calls ++ [.registerAll definitions]) = empty.after (calls ++ early.map .register) ∧
        accepted (calls ++ [.registerAll definitions]) = accepted calls ++ early ∧
        match late with
        | [] => ((empty.after calls).registerAll definitions 0).result = .ok definitions.length
        | d :: _ => ∃ error, ((empty.after (calls ++ early.map .register)).register d).1 = .error error ∧
            ((empty.after calls).registerAll definitions 0).result = .error error := by
  have further : ∀ more, empty.after (calls ++ more) = (empty.after calls).after more :=
    fun more => List.foldl_append
  have stands : ∀ calls, (empty.after calls).definitions = accepted calls := fun calls => (Built.empty.after calls).2
  obtain ⟨built, definitions⟩ := Built.empty.after calls
  change _ = accepted calls at definitions
  refine ⟨definitions, ?_, fun name => ⟨fun d => ?_, ?_⟩, fun property => ⟨fun d => ?_, ?_⟩,
    SortedMap.pairwise_keys _, fun d => ⟨?_, fun error => ⟨?_, fun failed => ?_⟩⟩, fun more => ?_⟩
  · rw [← definitions]
    exact built.names_nodup
  · rw [← definitions]
    exact built.get?_eq_some_iff
  · rw [← definitions]
    exact built.contains_iff_mem
  · rw [← definitions]
    exact built.providerOf?_eq_some_iff
  · rw [← definitions]
    exact built.mem_providedProperties_iff
  · rw [← definitions]
    exact built.register_fails_iff
  · rw [← definitions]
    exact built.register_eq_error_iff
  · rw [further, after, List.foldl_cons, call, register_eq_of_error failed]
    rfl
  · obtain ⟨early, late, split, registry, holds, ending⟩ := registerAll_stops (empty.after calls) more 0
    have all : empty.after (calls ++ [.registerAll more]) = empty.after (calls ++ early.map .register) := by
      rw [further, further, ← registry]
      rfl
    refine ⟨early, late, split, all, ?_, ?_⟩
    · rw [← stands, all, further, holds, definitions]
    · rw [further]
      cases late with
      | nil => exact ending.trans (by rw [Nat.zero_add])
      | cons => exact ending

end Conformance.Registry
