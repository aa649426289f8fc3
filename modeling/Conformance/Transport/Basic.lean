import Conformance.Remark
import Conformance.Request.Basic
import Conformance.Response.Basic

/-!
The boundary to the wire. A transport takes one GET and gives back the decoded response or the reason
why there is none, with the time that it took.
-/

namespace Conformance

inductive TransportError where
  | disconnected
  | timeout
  | rejected (text : String)
  | scriptExhausted (parameter : String)
deriving DecidableEq

namespace TransportError

def message : TransportError → String
  | disconnected => "Transport disconnected"
  | timeout => "Request timed out"
  | rejected text => s!"Request rejected by the transport: {text}"
  | scriptExhausted parameter => s!"No scripted response left for request to PID {parameter}"

end TransportError

abbrev GetResult := Except TransportError Response

/-- What came of one GET: the result, its latency in nanoseconds, and what the transport remarked. -/
structure Reception where
  result : GetResult
  latency : Nat
  remarks : List Remark

class Transport (σ : Type) where
  get : σ → GetRequest → Reception × σ

end Conformance
