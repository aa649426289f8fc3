/-!
The count of tests by state.
-/

namespace Conformance

structure RunSummary where
  total : Nat
  passed : Nat
  failed : Nat
  broken : Nat
  notRun : Nat
deriving DecidableEq, Inhabited

end Conformance
