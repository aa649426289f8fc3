import Conformance.Parameter.Basic
import Conformance.SortedMap

/-!
The catalog of parameters: a name for each number and a number for each name. An entry takes both
its name and its number away from the entries that had them before, so the two tables stay inverse
to each other.
-/

namespace Conformance

structure ParameterDescriptor where
  name : String
  id : ParameterId
deriving DecidableEq

structure Catalog where
  byName : SortedMap String ParameterId
  byNumber : SortedMap UInt16 String
deriving Inhabited

namespace Catalog

def empty : Catalog := ⟨∅, ∅⟩

/-- Enters a name and a number, and drops what either of them stood for before. -/
def insert (c : Catalog) (name : String) (id : ParameterId) : Catalog :=
  let byName := match c.byNumber.get? id.value with
    | some previous => if previous = name then c.byName else c.byName.erase previous
    | none => c.byName
  let byNumber := match c.byName.get? name with
    | some previous => if previous = id then c.byNumber else c.byNumber.erase previous.value
    | none => c.byNumber
  ⟨byName.insert name id, byNumber.insert id.value name⟩

def insertMany (c : Catalog) (entries : List (String × ParameterId)) : Catalog :=
  entries.foldl (fun c entry => c.insert entry.1 entry.2) c

def getByName? (c : Catalog) (name : String) : Option ParameterDescriptor :=
  (c.byName.get? name).map fun id => ⟨name, id⟩

def nameOf? (c : Catalog) (id : ParameterId) : Option String := c.byNumber.get? id.value

def size (c : Catalog) : Nat := c.byName.size

def isEmpty (c : Catalog) : Bool := c.byName.isEmpty

def standardEntries : List (String × ParameterId) :=
  [("QUEUED_MESSAGE", ⟨0x0020⟩), ("STATUS_MESSAGES", ⟨0x0030⟩), ("SUPPORTED_PARAMETERS", ⟨0x0050⟩),
    ("DEVICE_INFO", ⟨0x0060⟩), ("DEVICE_LABEL", ⟨0x0082⟩), ("FACTORY_DEFAULTS", ⟨0x0090⟩),
    ("SOFTWARE_VERSION_LABEL", ⟨0x00c0⟩), ("DMX_PERSONALITY", ⟨0x00e0⟩),
    ("DMX_START_ADDRESS", ⟨0x00f0⟩), ("IDENTIFY_DEVICE", ⟨0x1000⟩), ("RESET_DEVICE", ⟨0x1001⟩)]

def standard : Catalog := empty.insertMany standardEntries

end Catalog

end Conformance
