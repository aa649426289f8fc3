import Conformance.Fixture.Body
import Conformance.Parameter.Catalog
import Conformance.Settings.Basic

/-!
Fixtures: tests made ready for a run. A fixture may ask for more properties than its definition does, and may
turn out broken before its body is ever run. It is made from the setup of the run: the values in it, and the
transport and the response times, on which factories and bodies act by the steps that they take.
-/

namespace Conformance

/-- The values in the setup of a run. -/
structure TestSetup where
  universeId : UInt32
  uid : Uid
  broadcastWriteDelay : Span
  catalog : Catalog

namespace TestSetup

def ofSettings (settings : Settings) (catalog : Catalog) : TestSetup :=
  ⟨settings.universeId, settings.uid, settings.broadcastWriteDelay, catalog⟩

end TestSetup

structure Fixture where
  /-- The state before the body has run. -/
  state : TestState
  warnings : List String
  extraRequires : List String
  body : Body

namespace Fixture

def ofBody (body : Body) : Fixture := ⟨.notRun, [], [], body⟩

def brokenOf (body : Body) : Fixture := { ofBody body with state := .broken }

end Fixture

end Conformance
