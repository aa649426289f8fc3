import Conformance.Request.Form
import Conformance.Response.Basic
import Conformance.Span.Form

/-!
The JSON form of responses. Types and payloads are variants; the contents of the variants with
named fields are objects. A response without payload has no such member.
-/

namespace Conformance

open Json

instance : JsonForm CommandClass := ⟨fun c => .str c.name, named? CommandClass.all CommandClass.name⟩

instance : JsonForm ResponseCode := ⟨fun c => .str c.name, named? ResponseCode.all ResponseCode.name⟩

instance : JsonForm NackReason := ⟨fun r => encode r.value, fun j => (decode? j).map NackReason.mk⟩

instance : JsonForm ResponseType where
  encode
    | .ack => .str "Ack"
    | .ackTimer delay => .obj [("AckTimer", .obj [("delay", encode delay)])]
    | .nack reason => .obj [("Nack", encode reason)]
  decode? j :=
    match variant? j with
    | some ("Ack", content) => if isEmptyContent content then some .ack else none
    | some ("AckTimer", some (.obj members)) =>
      (required? (SortedMap.lookupEntry "delay" members)).map .ackTimer
    | some ("Nack", some content) => (decode? content).map .nack
    | _ => none

instance : JsonForm StatusMessage where
  encode m :=
    .obj [("sub_device", encode m.subDevice), ("status_type", encode m.statusType),
      ("status_message_id", encode m.messageId), ("data_value1", encode m.dataValue1),
      ("data_value2", encode m.dataValue2)]
  decode? j :=
    match fields? ["sub_device", "status_type", "status_message_id", "data_value1", "data_value2"] j with
    | some [subDevice, statusType, messageId, dataValue1, dataValue2] => do
      some ⟨← required? subDevice, ← required? statusType, ← required? messageId,
        ← required? dataValue1, ← required? dataValue2⟩
    | _ => none

instance : JsonForm Payload where
  encode
    | .statusMessages messages => .obj [("StatusMessages", .obj [("messages", encode messages)])]
    | .fields document => .obj [("Fields", document)]
    | .raw bytes => .obj [("Raw", encode bytes)]
  decode? j :=
    match variant? j with
    | some ("StatusMessages", some (.obj members)) =>
      (required? (SortedMap.lookupEntry "messages" members)).map .statusMessages
    | some ("Fields", some document) => some (.fields document)
    | some ("Raw", some content) => (decode? content).map .raw
    | _ => none

instance : JsonForm Response where
  encode r :=
    .obj ([("response_code", encode r.code), ("response_type", encode r.type),
      ("command_class", encode r.commandClass), ("pid", encode r.pid),
      ("sub_device", encode r.subDevice), ("queued_messages", encode r.queuedMessages)] ++
      match r.payload with
      | some payload => [("payload", encode payload)]
      | none => [])
  decode? j :=
    match fields? ["response_code", "response_type", "command_class", "pid", "sub_device",
        "queued_messages", "payload"] j with
    | some [code, type, commandClass, pid, subDevice, queuedMessages, payload] => do
      some ⟨← required? code, ← required? type, ← required? commandClass, ← required? pid,
        ← required? subDevice, ← required? queuedMessages, ← optional? decode? payload⟩
    | _ => none

end Conformance
