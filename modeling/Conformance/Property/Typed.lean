import Conformance.Property.Basic

/-!
Typed reads and writes of properties. A read that does not find the wanted type says what it found
and what it wanted; of a list or a map the first element that does not fit is named.
-/

namespace Conformance

namespace Json

def described : Json → String
  | .null => "null"
  | .bool value => "boolean " ++ "`" ++ (if value then "true" else "false") ++ "`"
  | .int value => "integer " ++ "`" ++ toString value ++ "`"
  | .float value => "floating point " ++ "`" ++ floatText value ++ "`"
  | .str value => "string " ++ Text.quoted value
  | .arr _ => "sequence"
  | .obj _ => "map"

end Json

/-- A type that a property can be read as; a failure gives the reason. -/
structure PropertyType (α : Type) where
  read : Json → Except String α

namespace PropertyType

def mismatch (document : Json) (wanted : String) : Except String α :=
  .error s!"invalid type: {document.described}, expected {wanted}"

/-- Integers from `low` to `high`, both included. -/
def integer (name : String) (low high : Int) : PropertyType Int where
  read
    | .int value =>
      if low ≤ value ∧ value ≤ high then .ok value
      else .error s!"invalid value: {(Json.int value).described}, expected {name}"
    | document => mismatch document name

def u8 : PropertyType Int := integer "u8" 0 255
def u16 : PropertyType Int := integer "u16" 0 65535
def u32 : PropertyType Int := integer "u32" 0 4294967295
def u64 : PropertyType Int := integer "u64" 0 18446744073709551615
def i8 : PropertyType Int := integer "i8" (-128) 127
def i64 : PropertyType Int := integer "i64" (-9223372036854775808) 9223372036854775807

def boolean : PropertyType Bool where
  read
    | .bool value => .ok value
    | document => mismatch document "a boolean"

def text : PropertyType String where
  read
    | .str value => .ok value
    | document => mismatch document "a string"

def optional (type : PropertyType α) : PropertyType (Option α) where
  read
    | .null => .ok none
    | document => (type.read document).map some

def list (type : PropertyType α) : PropertyType (List α) where
  read
    | .arr items => items.mapM type.read
    | document => mismatch document "a sequence"

def map (type : PropertyType α) : PropertyType (List (String × α)) where
  read
    | .obj members => members.mapM fun (key, document) => (type.read document).map (key, ·)
    | document => mismatch document "a map"

end PropertyType

namespace Store

def getAs (s : Store) (type : PropertyType α) (name : String) : Except PropertyError α :=
  match s.get name with
  | .error error => .error error
  | .ok document =>
    match type.read document with
    | .ok value => .ok value
    | .error reason => .error (.wrongType name reason)

end Store

/-- Values that have to be brought into document form before they can be a property. -/
inductive Writable where
  | document (value : Json)
  | byteKeyed (pairs : List (List UInt8 × UInt32))
  | integerKeyed (pairs : List (Int × Json))
  | natural (value : Nat)

namespace Writable

/--
The document of a value. Members need text for a key, which integers have and lists of bytes do not;
a natural number has to fit in 64 bits.
-/
def toJson : Writable → Except String Json
  | .document value => .ok value
  | .byteKeyed [] => .ok (.obj [])
  | .byteKeyed (_ :: _) => .error "key must be a string"
  | .integerKeyed pairs => .ok (Json.ofMembers (pairs.map fun (key, value) => (toString key, value)))
  | .natural value => if value < UInt64.size then .ok (.ofNat value) else .error "number out of range"

end Writable

end Conformance
