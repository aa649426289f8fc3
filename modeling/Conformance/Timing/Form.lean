import Conformance.Json.Form
import Conformance.Span.Form
import Conformance.Timing.Basic

/-!
The JSON form of timing: samples are an object with a member for each kind that has been seen.
-/

namespace Conformance

open Json

instance : JsonForm RequestKind := ⟨fun k => .str k.name, named? RequestKind.all RequestKind.name⟩

instance : JsonForm TimingSummary where
  encode s :=
    .obj [("count", .ofNat s.count), ("min", encode s.min), ("max", encode s.max), ("mean", encode s.mean)]
  decode? j :=
    match fields? ["count", "min", "max", "mean"] j with
    | some [count, min, max, mean] => do
      some ⟨← count.bind (natBelow? UInt64.size), ← required? min, ← required? max, ← required? mean⟩
    | _ => none

namespace TimingStats

def members (stats : TimingStats) : List (String × Json) :=
  RequestKind.all.filterMap fun kind => (stats.samples? kind).map fun samples => (kind.name, encode samples)

/-- The samples of one kind in the samples object, which may leave the kind out. -/
def kindSamples? (members : List (String × Json)) (kind : RequestKind) : Option (Option (List Span)) :=
  match SortedMap.lookupEntry kind.name members with
  | none => some none
  | some document => (decode? document).map some

end TimingStats

instance : JsonForm TimingStats where
  encode stats := .obj [("samples", .obj stats.members)]
  decode? j :=
    match fields? ["samples"] j with
    | some [some (.obj members)] =>
      if members.all fun (key, _) => RequestKind.all.any fun kind => kind.name == key then do
        some ⟨← TimingStats.kindSamples? members .get, ← TimingStats.kindSamples? members .set,
          ← TimingStats.kindSamples? members .discovery⟩
      else none
    | _ => none

end Conformance
