import Conformance.Event
import Conformance.Json.Printer
import Conformance.SortedSet

/-!
The property store: what tests have learnt about the responder. A property is meant to be written
once, by the test that declares it; other writes are accepted and logged.
-/

namespace Conformance

inductive PropertyError where
  | missing (name : String)
  | wrongType (name reason : String)
deriving DecidableEq

namespace PropertyError

def message : PropertyError → String
  | missing name => s!"Property not found: {name}"
  | wrongType name reason => s!"Property {name} has an unexpected type: {reason}"

end PropertyError

structure Store where
  declared : SortedSet String
  values : SortedMap String Json
deriving Inhabited

namespace Store

def declaring (names : List String) : Store := ⟨SortedSet.ofList names, ∅⟩

def get? (s : Store) (name : String) : Option Json := s.values.get? name

def get (s : Store) (name : String) : Except PropertyError Json :=
  match s.get? name with
  | some value => .ok value
  | none => .error (.missing name)

def contains (s : Store) (name : String) : Bool := s.values.contains name

/-- What the log says about writing a property: a second write first, then a name nobody declared. -/
def writeEvents (s : Store) (name : String) : List Event :=
  (if s.contains name then [.propertySetAgain name] else []) ++
    (if name ∈ s.declared then [] else [.propertyUndeclared name])

def set (s : Store) (name : String) (value : Json) : Store :=
  { s with values := s.values.insert name value }

def firstMissing? (s : Store) (names : List String) : Option String :=
  names.find? fun name => !s.contains name

def size (s : Store) : Nat := s.values.size

def isEmpty (s : Store) : Bool := s.values.isEmpty

def snapshot (s : Store) : Json := .obj s.values.entries

def display (s : Store) : String := s.snapshot.compact

end Store

end Conformance
