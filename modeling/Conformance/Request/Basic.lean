import Conformance.Parameter.Basic
import Conformance.Uid

/-!
GET requests to a responder on one of the universes.
-/

namespace Conformance

structure GetRequest where
  universeId : UInt32
  uid : Uid
  subDevice : UInt16
  pid : ParameterId
  data : List UInt8
deriving DecidableEq, Inhabited

namespace GetRequest

/-- The request for the next queued message of a status kind, to the device itself. -/
def queuedMessage (universeId : UInt32) (uid : Uid) (pid : ParameterId) (status : StatusType) : GetRequest :=
  ⟨universeId, uid, rootDevice, pid, [status.toByte]⟩

end GetRequest

end Conformance
