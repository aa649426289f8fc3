import Conformance.Json.Basic
import Conformance.Parameter.Basic
import Conformance.Span.Basic

/-!
What a responder answers to a request: how the exchange went, the kind of answer, and the data that
came with it.
-/

namespace Conformance

inductive CommandClass where
  | discoverResponse
  | getResponse
  | setResponse
deriving DecidableEq, Inhabited

namespace CommandClass

def all : List CommandClass := [.discoverResponse, .getResponse, .setResponse]

def name : CommandClass → String
  | .discoverResponse => "DiscoverResponse"
  | .getResponse => "GetResponse"
  | .setResponse => "SetResponse"

end CommandClass

/-- Whether an answer passed the checks of the message layer, or which of them it failed. -/
inductive ResponseCode where
  | completedOk
  | wasBroadcast
  | timeout
  | invalidResponse
  | checksumIncorrect
  | unknownUid
  | deviceMismatch
  | subDeviceMismatch
  | pidMismatch
deriving DecidableEq, Inhabited

namespace ResponseCode

def all : List ResponseCode :=
  [.completedOk, .wasBroadcast, .timeout, .invalidResponse, .checksumIncorrect, .unknownUid,
    .deviceMismatch, .subDeviceMismatch, .pidMismatch]

def name : ResponseCode → String
  | .completedOk => "CompletedOk"
  | .wasBroadcast => "WasBroadcast"
  | .timeout => "Timeout"
  | .invalidResponse => "InvalidResponse"
  | .checksumIncorrect => "ChecksumIncorrect"
  | .unknownUid => "UnknownUid"
  | .deviceMismatch => "DeviceMismatch"
  | .subDeviceMismatch => "SubDeviceMismatch"
  | .pidMismatch => "PidMismatch"

def display : ResponseCode → String
  | .completedOk => "Completed Ok"
  | .wasBroadcast => "Request was broadcast"
  | .timeout => "Response Timeout"
  | .invalidResponse => "Invalid Response"
  | .checksumIncorrect => "Incorrect checksum"
  | .unknownUid => "The response was for an unknown UID"
  | .deviceMismatch => "The response was from a different device"
  | .subDeviceMismatch => "The response was from a different sub device"
  | .pidMismatch => "The response was for a different PID"

def isOk (code : ResponseCode) : Bool := code == .completedOk

end ResponseCode

/-- Why a responder refused a request; the standard names the first eleven numbers. -/
structure NackReason where
  value : UInt16
deriving DecidableEq, Inhabited

namespace NackReason

def unknownPid : NackReason := ⟨0⟩

def names : List String :=
  ["Unknown PID", "Format error", "Hardware fault", "Proxy reject", "Write protect",
    "Unsupported command class", "Data out of range", "Buffer full", "Packet size unsupported",
    "Sub device out of range", "Proxy buffer full"]

def display (reason : NackReason) : String :=
  names[reason.value.toNat]?.getD
    ("Unknown NACK reason 0x" ++ String.ofList (Hex.padded 4 reason.value.toNat))

end NackReason

inductive ResponseType where
  | ack
  | ackTimer (delay : Span)
  | nack (reason : NackReason)
deriving DecidableEq, Inhabited

structure StatusMessage where
  subDevice : UInt16
  statusType : StatusType
  messageId : UInt16
  dataValue1 : Int16
  dataValue2 : Int16
deriving DecidableEq, Inhabited

inductive Payload where
  | statusMessages (messages : List StatusMessage)
  | fields (document : Json)
  | raw (bytes : List UInt8)
deriving Inhabited

namespace Payload

def statusMessages? : Payload → Option (List StatusMessage)
  | .statusMessages messages => some messages
  | _ => none

end Payload

structure Response where
  code : ResponseCode
  type : ResponseType
  commandClass : CommandClass
  pid : ParameterId
  subDevice : UInt16
  queuedMessages : UInt8
  payload : Option Payload
deriving Inhabited

namespace Response

def ofType (pid : ParameterId) (type : ResponseType) : Response :=
  ⟨.completedOk, type, .getResponse, pid, rootDevice, 0, none⟩

def ack (pid : ParameterId) (payload : Option Payload) : Response :=
  { ofType pid .ack with payload }

def statusMessages (messages : List StatusMessage) : Response :=
  ack .statusMessages (some (.statusMessages messages))

def ackTimer (pid : ParameterId) (delay : Span) : Response := ofType pid (.ackTimer delay)

def nack (pid : ParameterId) (reason : NackReason) : Response := ofType pid (.nack reason)

def failed (pid : ParameterId) (code : ResponseCode) : Response := { ofType pid .ack with code }

def nackReason? (r : Response) : Option NackReason :=
  match r.type with
  | .nack reason => some reason
  | _ => none

def ackTimerDelay? (r : Response) : Option Span :=
  match r.type with
  | .ackTimer delay => some delay
  | _ => none

def statusMessages? (r : Response) : Option (List StatusMessage) :=
  r.payload.bind Payload.statusMessages?

end Response

end Conformance
