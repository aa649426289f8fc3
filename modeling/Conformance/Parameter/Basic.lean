import Conformance.Text.Hex

/-!
Parameters of a responder, known by a sixteen-bit number, and the kinds of status that queued
messages report.
-/

namespace Conformance

structure ParameterId where
  value : UInt16
deriving DecidableEq, Inhabited

namespace ParameterId

def queuedMessage : ParameterId := ⟨0x0020⟩
def statusMessages : ParameterId := ⟨0x0030⟩

def display (id : ParameterId) : String := "0x" ++ String.ofList (Hex.padded 4 id.value.toNat)

end ParameterId

/-- The sub-device number that addresses the device itself. -/
def rootDevice : UInt16 := 0

inductive StatusType where
  | none
  | getLastMessage
  | advisory
  | warning
  | error
  | advisoryCleared
  | warningCleared
  | errorCleared
deriving DecidableEq, Inhabited

namespace StatusType

def all : List StatusType :=
  [.none, .getLastMessage, .advisory, .warning, .error, .advisoryCleared, .warningCleared, .errorCleared]

def name : StatusType → String
  | .none => "None"
  | .getLastMessage => "GetLastMessage"
  | .advisory => "Advisory"
  | .warning => "Warning"
  | .error => "Error"
  | .advisoryCleared => "AdvisoryCleared"
  | .warningCleared => "WarningCleared"
  | .errorCleared => "ErrorCleared"

/-- The number that stands for the status kind in a message; a cleared kind sets bit four. -/
def toByte : StatusType → UInt8
  | .none => 0x00
  | .getLastMessage => 0x01
  | .advisory => 0x02
  | .warning => 0x03
  | .error => 0x04
  | .advisoryCleared => 0x12
  | .warningCleared => 0x13
  | .errorCleared => 0x14

end StatusType

end Conformance
