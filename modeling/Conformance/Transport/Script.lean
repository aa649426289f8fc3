import Conformance.Transport.Basic

/-!
A transport that answers from a script: the first GET gets the first reply, and so on in order. Past
the end of the script a GET gets the error that the script is exhausted.
-/

namespace Conformance

structure Reply where
  result : GetResult
  latency : Span

structure Script where
  replies : List Reply
  /-- All requests so far, in the order in which they came. -/
  requests : Array GetRequest

namespace Script

def ofReplies (replies : List Reply) : Script := ⟨replies, #[]⟩

def push (s : Script) (reply : Reply) : Script := { s with replies := s.replies ++ [reply] }

def remaining (s : Script) : Nat := s.replies.length

def noReplyLeft (pid : ParameterId) : Remark :=
  ⟨.debug, "Scripted transport has no reply left", [("pid", pid.display)]⟩

def get (s : Script) (request : GetRequest) : Reception × Script :=
  let s := { s with requests := s.requests.push request }
  match s.replies with
  | reply :: rest => (⟨reply.result, reply.latency.sleepNanos, []⟩, { s with replies := rest })
  | [] => (⟨.error (.scriptExhausted request.pid.display), 0, [noReplyLeft request.pid]⟩, s)

instance : Transport Script := ⟨get⟩

end Script

end Conformance
