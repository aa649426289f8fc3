import Conformance.Json.Reader
import Conformance.Settings.Layer
import Conformance.Settings.Path
import Conformance.Toml.Date
import Conformance.Toml.Reader

/-!
Settings from a file. A file's format is told by its extension, and a file may be asked for without
its extension. A file that is not there, or is of no known format, sets nothing.
-/

namespace Conformance

inductive FileFormat where
  | toml
  | json
deriving DecidableEq

namespace FileFormat

def all : List FileFormat := [toml, json]

def extension : FileFormat → String
  | toml => "toml"
  | json => "json"

/-- The extension of a file name: what follows its last point, unless nothing is before that. -/
def extension? (name : String) : Option String :=
  let reversed := name.toList.reverse
  match reversed.dropWhile (· != '.') with
  | _ :: _ :: _ => some (String.ofList (reversed.takeWhile (· != '.')).reverse)
  | _ => none

def ofName? (name : String) : Option FileFormat :=
  all.find? fun format => extension? name == some format.extension

end FileFormat

/-- Files by their paths, with their texts. -/
abbrev Directory := List (String × String)

namespace Directory

def text? (directory : Directory) (names : List String) : Option String :=
  (directory.find? fun (path, _) => Path.names path == names).map (·.2)

/-- The format and the text of the file that is meant by a path. -/
def find? (directory : Directory) (path : String) : Option (FileFormat × String) :=
  let names := Path.names path
  if Path.isRooted path then none
  else
    match if Path.mayBeFile path then directory.text? names else none with
    | some text => (names.getLast?.bind FileFormat.ofName?).map (·, text)
    | none => FileFormat.all.findSome? fun format => do
      let text ← directory.text? (← Path.withEnding ("." ++ format.extension) names)
      some (format, text)

end Directory

/-- The value as one for a setting; an empty table is none. -/
def Toml.setting? : Toml → Option Setting
  | .bool value => some (.bool value)
  | .int value => some (.int value)
  | .float value => some (.float value)
  | .str value => some (.text value)
  | .moment text => some (.text text)
  | .table _ [] => none
  | _ => some .unfit

/-- The value as one for a setting; integers past 63 bits are fractions, and an empty object is none. -/
def Json.setting? : Json → Option Setting
  | .bool value => some (.bool value)
  | .int value => some (if value ≤ Int64.maxValue.toInt then .int value else .float (Float.ofNat value.toNat))
  | .float value => some (.float value)
  | .str value => some (.text value)
  | .obj [] => none
  | _ => some .unfit

namespace Layer

/-- The layer of a text in its format, if it is of that format and a document with names. -/
def ofText? (format : FileFormat) (text : String) : Option Layer :=
  match format with
  | .toml =>
    ((Toml.ofText? text).filter Toml.isDocument).map
      (·.filterMap fun (key, value) => entry? key value.setting?)
  | .json =>
    match Json.ofText? text with
    | some (.obj members) => some (members.filterMap fun (key, value) => entry? key value.setting?)
    | _ => none

end Layer

end Conformance
