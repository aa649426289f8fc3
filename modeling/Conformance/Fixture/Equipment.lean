import Conformance.Property.Basic
import Conformance.Timing.Basic

/-!
What the code of tests works with, over a transport of state `σ`: the transport and the response times that come
with the setup of a run, the clock, and what the code keeps for itself from one call to the next. All of this lasts
from one run to the next; the property store is that of one run.
-/

namespace Conformance

structure Equipment (σ : Type) where
  transport : σ
  /-- In nanoseconds. -/
  clock : Nat
  timing : TimingStats
  /-- What the factories and the bodies of tests have put aside, by whatever names they use. -/
  memory : SortedMap String Json

/-- What lasts from one test of a run to the next. -/
structure World (σ : Type) extends Equipment σ where
  store : Store

end Conformance
