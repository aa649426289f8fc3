import Conformance.SortedMap

/-!
JSON documents as trees. Integers and floating-point numbers are different values, as they are in
the documents: `1` and `1.0` are not equal.
-/

namespace Conformance

inductive Json where
  | null
  | bool (value : Bool)
  | int (value : Int)
  | float (value : Float)
  | str (value : String)
  | arr (items : List Json)
  | obj (members : List (String × Json))
deriving Inhabited

namespace Json

/-- An object of the given members in key order; the last value given for a key stays. -/
def ofMembers (members : List (String × Json)) : Json := .obj (SortedMap.ofList members).entries

def ofNat (n : Nat) : Json := .int n

def ofStrings (texts : List String) : Json := .arr (texts.map .str)

def member? (key : String) : Json → Option Json
  | .obj members => SortedMap.lookupEntry key members
  | _ => none

mutual

/-- Equality of documents; floating-point numbers compare by value. -/
def same : Json → Json → Bool
  | .null, .null => true
  | .bool a, .bool b => a == b
  | .int a, .int b => a == b
  | .float a, .float b => a == b
  | .str a, .str b => a == b
  | .arr a, .arr b => sameItems a b
  | .obj a, .obj b => sameMembers a b
  | _, _ => false

def sameItems : List Json → List Json → Bool
  | [], [] => true
  | a :: as, b :: bs => same a b && sameItems as bs
  | _, _ => false

def sameMembers : List (String × Json) → List (String × Json) → Bool
  | [], [] => true
  | (k, a) :: as, (k', b) :: bs => k == k' && same a b && sameMembers as bs
  | _, _ => false

end

mutual

/-- The same document with the members of every object in key order. -/
def canonical : Json → Json
  | .arr items => .arr (canonicalItems items)
  | .obj members => ofMembers (canonicalMembers members)
  | other => other

def canonicalItems : List Json → List Json
  | [] => []
  | item :: rest => canonical item :: canonicalItems rest

def canonicalMembers : List (String × Json) → List (String × Json)
  | [] => []
  | (key, value) :: rest => (key, canonical value) :: canonicalMembers rest

end

end Json

end Conformance
