import Conformance.Span.Basic

/-!
Response times gathered while tests run, kept for each kind of request in the order in which they
were measured, and their summary.
-/

namespace Conformance

inductive RequestKind where
  | get
  | set
  | discovery
deriving DecidableEq, Inhabited

namespace RequestKind

def all : List RequestKind := [.get, .set, .discovery]

def name : RequestKind → String
  | .get => "Get"
  | .set => "Set"
  | .discovery => "Discovery"

def display : RequestKind → String
  | .get => "GET"
  | .set => "SET"
  | .discovery => "DISCOVERY"

end RequestKind

structure TimingSummary where
  count : Nat
  min : Span
  max : Span
  mean : Span
deriving DecidableEq

/-- The samples of each kind; a kind of which nothing was ever said has none at all. -/
structure TimingStats where
  get : Option (List Span)
  set : Option (List Span)
  discovery : Option (List Span)
deriving DecidableEq, Inhabited

inductive SummaryError where
  | totalOverflow
  /-- There are samples, but 32 bits show none of their count. -/
  | zeroDivisor
deriving DecidableEq

namespace TimingStats

def empty : TimingStats := ⟨none, none, none⟩

def samples? (stats : TimingStats) : RequestKind → Option (List Span)
  | .get => stats.get
  | .set => stats.set
  | .discovery => stats.discovery

def samples (stats : TimingStats) (kind : RequestKind) : List Span := (stats.samples? kind).getD []

def record (stats : TimingStats) (kind : RequestKind) (elapsed : Span) : TimingStats :=
  let extended := some (stats.samples kind ++ [elapsed])
  match kind with
  | .get => { stats with get := extended }
  | .set => { stats with set := extended }
  | .discovery => { stats with discovery := extended }

/--
Count, extremes and mean of a kind that has samples; their total has to fit in a span. Only 32 bits of the count
are kept for the mean.
-/
def summary (stats : TimingStats) (kind : RequestKind) : Except SummaryError (Option TimingSummary) :=
  match stats.samples kind with
  | [] => .ok none
  | first :: rest =>
    match Span.sum? (first :: rest) with
    | none => .error .totalOverflow
    | some total =>
      let count := (first :: rest).length
      match total.divide? (UInt32.ofNat count) with
      | none => .error .zeroDivisor
      | some mean => .ok (some ⟨count, rest.foldl Span.min first, rest.foldl Span.max first, mean⟩)

def total (stats : TimingStats) : Nat :=
  RequestKind.all.foldl (fun count kind => count + (stats.samples kind).length) 0

end TimingStats

end Conformance
