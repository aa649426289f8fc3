import Conformance.Json.Form
import Conformance.Parameter.Catalog
import Conformance.Request.Basic

/-!
The JSON forms of UIDs, parameters and GET requests. A UID is its text, a parameter its number.
-/

namespace Conformance

open Json

instance : JsonForm Uid where
  encode uid := .str uid.display
  decode?
    | .str text => (Uid.ofText text).toOption
    | _ => none

instance : JsonForm ParameterId := ⟨fun id => encode id.value, fun j => (decode? j).map ParameterId.mk⟩

instance : JsonForm StatusType := ⟨fun s => .str s.name, named? StatusType.all StatusType.name⟩

instance : JsonForm ParameterDescriptor where
  encode d := .obj [("name", encode d.name), ("id", encode d.id)]
  decode? j :=
    match fields? ["name", "id"] j with
    | some [name, id] => do some ⟨← required? name, ← required? id⟩
    | _ => none

instance : JsonForm GetRequest where
  encode r :=
    .obj [("universe", encode r.universeId), ("uid", encode r.uid), ("sub_device", encode r.subDevice),
      ("pid", encode r.pid), ("data", encode r.data)]
  decode? j :=
    match fields? ["universe", "uid", "sub_device", "pid", "data"] j with
    | some [universeId, uid, subDevice, pid, data] => do
      some ⟨← required? universeId, ← required? uid, ← required? subDevice, ← required? pid,
        ← required? data⟩
    | _ => none

end Conformance
