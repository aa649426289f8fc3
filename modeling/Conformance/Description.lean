import Conformance.Run.Runner

/-!
Descriptions of values for whoever looks into a run: records with their fields by name.
-/

namespace Conformance

namespace Span

/-- A whole number and a fraction of the given count of digits, without zeros at its end. -/
def decimalText (whole fraction places : Nat) : String :=
  let digits := Timestamp.padded places fraction
  let kept := (digits.toList.reverse.dropWhile (· == '0')).reverse
  if kept.isEmpty then toString whole else toString whole ++ "." ++ String.ofList kept

def describe (s : Span) : String :=
  let nanos := s.nanos.toNat
  if 0 < s.secs then decimalText s.secs.toNat nanos 9 ++ "s"
  else if 1000000 ≤ nanos then decimalText (nanos / 1000000) (nanos % 1000000) 6 ++ "ms"
  else if 1000 ≤ nanos then decimalText (nanos / 1000) (nanos % 1000) 3 ++ "\u00b5s"
  else toString nanos ++ "ns"

end Span

def Uid.describe (uid : Uid) : String :=
  Text.record "Uid" [("manufacturer_id", toString uid.manufacturer.toNat),
    ("device_id", toString uid.device.toNat)]

def GetRequest.describe (r : GetRequest) : String :=
  Text.record "GetRequest" [("universe", toString r.universeId.toNat), ("uid", r.uid.describe),
    ("sub_device", toString r.subDevice.toNat),
    ("pid", s!"ParameterId({r.pid.value.toNat})"),
    ("data", Text.bracketed (r.data.map fun byte => toString byte.toNat))]

def Settings.describe (s : Settings) : String :=
  Text.record "RunnerConfig" [("universe", toString s.universeId.toNat), ("uid", s.uid.describe),
    ("broadcast_write_delay_ms", toString s.broadcastWriteDelayMs.toNat),
    ("inter_test_delay_ms", toString s.interTestDelayMs.toNat),
    ("timestamp", if s.timestamp then "true" else "false"),
    ("queued_message_limit", toString s.queuedMessageLimit.toNat),
    ("ack_timer_limit", toString s.ackTimerLimit.toNat)]

def TestSetup.describe (s : TestSetup) : String :=
  Text.openRecord "TestSetup" [("universe", toString s.universeId.toNat), ("uid", s.uid.describe),
    ("broadcast_write_delay", s.broadcastWriteDelay.describe)]

def TestNode.describe (n : TestNode) : String :=
  Text.record "TestNode" [("name", Text.quoted n.name),
    ("requires", Text.braced (n.requires.toList.map Text.quoted)), ("state", n.fixture.state.name)]

def DependencyGraph.describe (g : DependencyGraph) : String :=
  Text.record "DependencyGraph" [("nodes", Text.bracketed (g.nodes.map TestNode.describe)),
    ("edges", Text.mapping (g.edges.entries.map fun (index, targets) =>
      (toString index, Text.braced (targets.toList.map toString))))]

def Fetcher.describe (f : Fetcher) : String :=
  Text.openRecord "QueuedMessageFetcher" [("request", f.request.describe),
    ("limit", toString f.limit.toNat), ("ack_timer_limit", toString f.ackTimerLimit.toNat)]

def Runner.describe (r : Runner σ) : String :=
  Text.openRecord "TestRunner" [("config", r.settings.describe), ("tests", toString r.registry.size)]

end Conformance
