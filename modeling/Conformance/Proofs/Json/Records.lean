import Conformance.Proofs.Json.Form
import Conformance.Proofs.Span
import Conformance.Proofs.Uid
import Conformance.Response.Form

/-!
# Requests and responses read back

The documents of requests and responses stand for the values that they were made from: variants by their names,
records field by field. A span may also be given with more nanoseconds than a second has (`Span.decode?_parts`).
-/

namespace Conformance

open Json

instance : LawfulJsonForm StatusType := ⟨fun kind => by cases kind <;> rfl⟩

instance : LawfulJsonForm CommandClass := ⟨fun commandClass => by cases commandClass <;> rfl⟩

instance : LawfulJsonForm ResponseCode := ⟨fun code => by cases code <;> rfl⟩

instance : LawfulJsonForm Uid where
  decode_encode uid := by
    show (Uid.ofText uid.display).toOption = some uid
    rw [Uid.ofText_display, Except.toOption]

instance : LawfulJsonForm ParameterId := ⟨fun id => map_decode?_encode ParameterId.mk id.value⟩

instance : LawfulJsonForm GetRequest where
  decode_encode r := by
    show (do
      some (⟨← required? (some (encode r.universeId)), ← required? (some (encode r.uid)),
        ← required? (some (encode r.subDevice)), ← required? (some (encode r.pid)),
        ← required? (some (encode r.data))⟩ : GetRequest)) = some r
    simp only [required?_encode]
    rfl

namespace Span

/-- The document of a span as it may be given, with any number of nanoseconds. -/
def parts (secs : UInt64) (nanos : UInt32) : Json := .obj [("secs", encode secs), ("nanos", encode nanos)]

theorem decode?_parts (secs : UInt64) (nanos : UInt32) :
    decode? (parts secs nanos) = ofParts? secs.toNat nanos.toNat := by
  show (do
    let secs : UInt64 ← required? (some (encode secs))
    let nanos : UInt32 ← required? (some (encode nanos))
    if true then ofParts? secs.toNat nanos.toNat else none) = ofParts? secs.toNat nanos.toNat
  simp only [required?_encode]
  rfl

instance : LawfulJsonForm Span := ⟨fun s => (decode?_parts s.secs s.nanos).trans (ofParts?_self s)⟩

theorem decode?_parts_eq_none_iff {secs : UInt64} {nanos : UInt32} :
    decode? (parts secs nanos) = (none : Option Span) ↔ UInt64.size ≤ secs.toNat + nanos.toNat / nanosPerSec := by
  rw [decode?_parts, ofParts?_eq_none_iff]

theorem toNanos_of_decode?_parts {secs : UInt64} {nanos : UInt32} {s : Span}
    (read : decode? (parts secs nanos) = some s) : s.toNanos = secs.toNat * nanosPerSec + nanos.toNat :=
  toNanos_of_ofParts? ((decode?_parts secs nanos).symm.trans read)

end Span

instance : LawfulJsonForm NackReason := ⟨fun reason => map_decode?_encode NackReason.mk reason.value⟩

instance : LawfulJsonForm ResponseType where
  decode_encode type := by
    cases type with
    | ack => rfl
    | ackTimer delay => exact map_decode?_encode ResponseType.ackTimer delay
    | nack reason => exact map_decode?_encode ResponseType.nack reason

instance : LawfulJsonForm StatusMessage where
  decode_encode m := by
    show (do
      some (⟨← required? (some (encode m.subDevice)), ← required? (some (encode m.statusType)),
        ← required? (some (encode m.messageId)), ← required? (some (encode m.dataValue1)),
        ← required? (some (encode m.dataValue2))⟩ : StatusMessage)) = some m
    simp only [required?_encode]
    rfl

instance : LawfulJsonForm Payload where
  decode_encode payload := by
    cases payload with
    | statusMessages messages => exact map_decode?_encode Payload.statusMessages messages
    | fields document => rfl
    | raw bytes => exact map_decode?_encode Payload.raw bytes

theorem Payload.encode_ne_null (payload : Payload) : encode payload ≠ .null := by
  cases payload <;> exact Json.noConfusion

/-- A payload that holds null is there, unlike one that is missing. -/
theorem Payload.optional?_member (payload : Option Payload) :
    optional? decode? (payload.map encode) = some payload := by
  cases payload with
  | none => rfl
  | some payload => exact optional?_present payload.encode_ne_null (decode?_encode payload)

instance : LawfulJsonForm Response where
  decode_encode r := by
    have member : decode? (encode r) = (do
        some (⟨← required? (some (encode r.code)), ← required? (some (encode r.type)),
          ← required? (some (encode r.commandClass)), ← required? (some (encode r.pid)),
          ← required? (some (encode r.subDevice)), ← required? (some (encode r.queuedMessages)),
          ← optional? decode? (r.payload.map encode)⟩ : Response)) := by
      obtain ⟨code, type, commandClass, pid, subDevice, queuedMessages, payload⟩ := r
      cases payload <;> rfl
    rw [member]
    simp only [required?_encode, Payload.optional?_member]
    rfl

theorem Response.encode_null_ne_encode_none (r : Response) :
    encode { r with payload := some (.fields .null) } ≠ encode { r with payload := none } := by
  intro same
  have payload := congrArg (fun document => (decode? document : Option Response)) same
  simp at payload

end Conformance
