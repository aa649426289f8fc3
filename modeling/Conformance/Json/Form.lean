import Conformance.Json.Basic

/-!
The JSON form of a type: a document for every value, and the values that documents stand for. A
record is an object with a member for each field, or the array of its fields in order; a choice
among variants is the variant's name, or an object whose one member is named for the variant.
-/

namespace Conformance

class JsonForm (α : Type) where
  encode : α → Json
  decode? : Json → Option α

export JsonForm (encode decode?)

namespace Json

/-- An integer from zero up to but not including the bound. -/
def natBelow? (bound : Nat) : Json → Option Nat
  | .int (.ofNat n) => if n < bound then some n else none
  | _ => none

def list? (item? : Json → Option α) : Json → Option (List α)
  | .arr items => items.mapM item?
  | _ => none

/-- The fields of a record under the given names; a missing member of an object is a missing field. -/
def fields? (names : List String) : Json → Option (List (Option Json))
  | .obj members => some (names.map fun name => SortedMap.lookupEntry name members)
  | .arr items => if items.length = names.length then some (items.map some) else none
  | _ => none

/-- A missing or null field is no value. -/
def optional? (item? : Json → Option α) : Option Json → Option (Option α)
  | none => some none
  | some .null => some none
  | some document => (item? document).map some

def variant? : Json → Option (String × Option Json)
  | .str name => some (name, none)
  | .obj [(name, content)] => some (name, some content)
  | _ => none

/-- A variant without content may have a null one. -/
def isEmptyContent : Option Json → Bool
  | none => true
  | some .null => true
  | some _ => false

/-- The value of a finite list whose name the document gives. -/
def named? (all : List α) (name : α → String) (document : Json) : Option α :=
  match variant? document with
  | some (given, content) => if isEmptyContent content then all.find? (fun a => name a == given) else none
  | none => none

end Json

open Json

instance : JsonForm Json := ⟨id, some⟩

instance : JsonForm Bool where
  encode := .bool
  decode?
    | .bool value => some value
    | _ => none

instance : JsonForm String where
  encode := .str
  decode?
    | .str value => some value
    | _ => none

instance : JsonForm UInt8 := ⟨fun n => .int n.toNat, fun j => (natBelow? UInt8.size j).map .ofNat⟩
instance : JsonForm UInt16 := ⟨fun n => .int n.toNat, fun j => (natBelow? UInt16.size j).map .ofNat⟩
instance : JsonForm UInt32 := ⟨fun n => .int n.toNat, fun j => (natBelow? UInt32.size j).map .ofNat⟩
instance : JsonForm UInt64 := ⟨fun n => .int n.toNat, fun j => (natBelow? UInt64.size j).map .ofNat⟩

instance : JsonForm Int16 where
  encode n := .int n.toInt
  decode?
    | .int n => if Int16.minValue.toInt ≤ n ∧ n ≤ Int16.maxValue.toInt then some (.ofInt n) else none
    | _ => none

instance [JsonForm α] : JsonForm (List α) := ⟨fun items => .arr (items.map encode), list? decode?⟩

instance [JsonForm α] : JsonForm (Option α) where
  encode
    | none => .null
    | some value => encode value
  decode? j := optional? decode? (some j)

def Json.required? [JsonForm α] (field : Option Json) : Option α := field.bind decode?

end Conformance
