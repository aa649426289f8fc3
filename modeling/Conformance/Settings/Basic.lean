import Conformance.Span.Basic
import Conformance.Uid

/-!
The settings of a run: which responder it is about, its pauses, and the two limits of a drain.
-/

namespace Conformance

structure Settings where
  universeId : UInt32
  uid : Uid
  broadcastWriteDelayMs : UInt64
  interTestDelayMs : UInt64
  timestamp : Bool
  queuedMessageLimit : UInt32
  ackTimerLimit : UInt32
deriving DecidableEq

namespace Settings

def default : Settings := ⟨0, .zero, 50, 0, false, 25, 25⟩

instance : Inhabited Settings := ⟨default⟩

/-- The default settings for the responder of a universe and a UID. -/
def forResponder (universeId : UInt32) (uid : Uid) : Settings := { default with universeId, uid }

def broadcastWriteDelay (s : Settings) : Span := .ofMillis s.broadcastWriteDelayMs

def interTestDelay (s : Settings) : Span := .ofMillis s.interTestDelayMs

/-- What is wrong with the settings, if anything is: a drain has to be allowed one GET. -/
def problem? (s : Settings) : Option String :=
  if s.queuedMessageLimit = 0 then some "queued_message_limit must be at least 1" else none

end Settings

end Conformance
