import Conformance.Json.Form
import Conformance.Span.Basic

/-!
The JSON form of spans: a record of seconds and nanoseconds that admits no other member. Nanoseconds
of a billion and more carry into the seconds when they are read.
-/

namespace Conformance

open Json

instance : JsonForm Span where
  encode s := .obj [("secs", encode s.secs), ("nanos", encode s.nanos)]
  decode? j :=
    let known : Bool := match j with
      | .obj members => members.all fun (key, _) => key == "secs" || key == "nanos"
      | _ => true
    match fields? ["secs", "nanos"] j with
    | some [secs, nanos] => do
      let secs : UInt64 ← required? secs
      let nanos : UInt32 ← required? nanos
      if known then Span.ofParts? secs.toNat nanos.toNat else none
    | _ => none

end Conformance
