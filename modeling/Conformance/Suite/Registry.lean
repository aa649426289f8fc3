import Conformance.Event
import Conformance.Suite.Definition
import Conformance.Suite.Error

/-!
The registry of tests. Names are unique, and a property has one provider at most; a definition that
breaks either rule is refused and leaves no trace. Definitions are found by way of an index of their
names, which is right at all times.
-/

namespace Conformance

structure Registry where
  /-- The accepted definitions in the order in which they came. -/
  definitions : List TestDefinition
  /-- The place of each definition in the list. -/
  byName : SortedMap String Nat
  /-- The name of the test that provides each property. -/
  providers : SortedMap String String
  indexed : ∀ name i, byName.get? name = some i ↔ ∃ d, definitions[i]? = some d ∧ d.name = name

namespace Registry

def empty : Registry := ⟨[], ∅, ∅, by simp [EmptyCollection.emptyCollection]⟩

instance : Inhabited Registry := ⟨empty⟩

def get? (r : Registry) (name : String) : Option TestDefinition :=
  (r.byName.get? name).bind fun i => r.definitions[i]?

theorem get?_name {r : Registry} {name : String} {d : TestDefinition} (h : r.get? name = some d) :
    d ∈ r.definitions ∧ d.name = name := by
  obtain ⟨i, known, found⟩ := Option.bind_eq_some_iff.mp h
  obtain ⟨other, here, named⟩ := (r.indexed name i).mp known
  obtain rfl : other = d := Option.some.inj (here.symm.trans found)
  exact ⟨List.mem_of_getElem? found, named⟩

def contains (r : Registry) (name : String) : Bool := r.byName.contains name

def require (r : Registry) (name : String) : Except SuiteError TestDefinition :=
  match r.get? name with
  | some d => .ok d
  | none => .error (.unknownTest name)

theorem require_eq_ok {r : Registry} {name : String} {d : TestDefinition} (h : r.require name = .ok d) :
    r.get? name = some d := by
  rw [require] at h
  split at h
  · next found => rw [found, Except.ok.inj h]
  · cases h

def providerOf? (r : Registry) (property : String) : Option TestDefinition :=
  (r.providers.get? property).bind r.get?

def providedProperties (r : Registry) : List String := r.providers.keys

def size (r : Registry) : Nat := r.definitions.length

def isEmpty (r : Registry) : Bool := r.definitions.isEmpty

/-- The first property of a definition that has a provider already, with that provider. -/
def taken? (r : Registry) (d : TestDefinition) : Option (String × String) :=
  d.provides.toList.findSome? fun property => (r.providers.get? property).map (property, ·)

/-- The index keeps up with a definition that goes to the end of the list. -/
theorem indexed_append (r : Registry) {d : TestDefinition} (fresh : ¬ r.contains d.name) (name : String) (i : Nat) :
    (r.byName.insert d.name r.definitions.length).get? name = some i ↔
      ∃ other, (r.definitions ++ [d])[i]? = some other ∧ other.name = name := by
  have absent : r.byName.get? d.name = none := by simpa [contains, SortedMap.contains] using fresh
  rw [SortedMap.get?_insert]
  simp only [List.getElem?_append, List.getElem?_singleton]
  constructor
  · intro found
    split at found
    · next same =>
      refine ⟨d, ?_, same.symm⟩
      rw [← Option.some.inj found, if_neg (Nat.lt_irrefl _), if_pos (Nat.sub_self _)]
    · obtain ⟨other, here, named⟩ := (r.indexed name i).mp found
      exact ⟨other, by rw [if_pos (List.getElem?_eq_some_iff.mp here).1, here], named⟩
  · rintro ⟨other, found, rfl⟩
    split at found
    · next within =>
      have known := (r.indexed other.name i).mpr ⟨other, found, rfl⟩
      rw [if_neg, known]
      intro same
      rw [same, absent] at known
      cases known
    · next beyond =>
      split at found
      · next last =>
        obtain rfl : d = other := Option.some.inj found
        rw [if_pos rfl]
        congr 1
        omega
      · cases found

/-- Takes in a definition of a new name. -/
def add (r : Registry) (d : TestDefinition) (fresh : ¬ r.contains d.name) : Registry where
  definitions := r.definitions ++ [d]
  byName := r.byName.insert d.name r.definitions.length
  providers := d.provides.toList.foldl (fun providers property => providers.insert property d.name) r.providers
  indexed := r.indexed_append fresh

/-- Accepts a definition unless its name or one of its properties is taken; the registry is that after the call. -/
def register (r : Registry) (d : TestDefinition) : Except SuiteError Unit × Registry :=
  if fresh : r.contains d.name then (.error (.duplicateTest d.name), r)
  else
    match r.taken? d with
    | some (property, existing) => (.error (.duplicateProperty property existing d.name), r)
    | none => (.ok (), r.add d fresh)

/-- What came of registering several definitions: what was accepted before the first refusal stays. -/
structure Registration where
  registry : Registry
  result : Except SuiteError Nat
  events : List Event

/-- Registers one definition after the other up to the first that is refused. -/
def registerAll (r : Registry) (definitions : List TestDefinition) (count : Nat) : Registration :=
  match definitions with
  | [] => ⟨r, .ok count, []⟩
  | d :: rest =>
    match r.register d with
    | (.error error, r) => ⟨r, .error error, []⟩
    | (.ok (), r) =>
      let others := r.registerAll rest (count + 1)
      { others with events := .testRegistered d.name :: others.events }

end Registry

end Conformance
