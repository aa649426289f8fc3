import Conformance.Text.Hex

/-!
Unique identifiers of devices: a manufacturer and a device number, ordered by manufacturer first.
A UID is written as four and eight lower-case hexadecimal digits with a colon between them; reading
is more lenient about length, case and a leading plus sign.
-/

namespace Conformance

structure Uid where
  manufacturer : UInt16
  device : UInt32
deriving DecidableEq, Inhabited

inductive UidError where
  | malformed (text : String)
  | invalidHex (text : String)
deriving DecidableEq

namespace UidError

def message : UidError → String
  | malformed text => s!"UID must be of the form mmmm:dddddddd, got '{text}'"
  | invalidHex text => s!"Invalid hex in UID '{text}'"

end UidError

namespace Uid

def broadcast : Uid := ⟨0xffff, 0xffffffff⟩

def vendorcast (manufacturer : UInt16) : Uid := ⟨manufacturer, 0xffffffff⟩

/-- Whether the UID names all devices, of one manufacturer or of every one. -/
def isBroadcast (uid : Uid) : Bool := uid.device == 0xffffffff

def zero : Uid := ⟨0, 0⟩

instance : LT Uid :=
  ⟨fun u v => u.manufacturer < v.manufacturer ∨ u.manufacturer = v.manufacturer ∧ u.device < v.device⟩

instance (u v : Uid) : Decidable (u < v) :=
  inferInstanceAs (Decidable (_ ∨ _))

def display (uid : Uid) : String :=
  String.ofList (Hex.padded 4 uid.manufacturer.toNat ++ ':' :: Hex.padded 8 uid.device.toNat)

/-- One part of a UID: at least one hexadecimal digit after at most one plus sign. -/
def partValue? : List Char → Option Nat
  | '+' :: digits => Hex.value? digits
  | digits => Hex.value? digits

def utf8Length (text : List Char) : Nat := text.foldl (fun size c => size + c.utf8Size) 0

def splitColon? : List Char → Option (List Char × List Char)
  | [] => none
  | ':' :: rest => some ([], rest)
  | c :: rest => (splitColon? rest).map fun parts => (c :: parts.1, parts.2)

/--
Reads a UID. Text without a colon, or with a part of no bytes or too many, is malformed; after that
each part has to be a number in base sixteen.
-/
def ofText (text : String) : Except UidError Uid :=
  match splitColon? text.toList with
  | none => .error (.malformed text)
  | some (manufacturer, device) =>
    let fits (part : List Char) (limit : Nat) : Bool :=
      decide (1 ≤ utf8Length part) && decide (utf8Length part ≤ limit)
    if fits manufacturer 4 && fits device 8 then
      match partValue? manufacturer, partValue? device with
      | some m, some d => .ok ⟨UInt16.ofNat m, UInt32.ofNat d⟩
      | _, _ => .error (.invalidHex text)
    else .error (.malformed text)

def sort (uids : List Uid) : List Uid := uids.mergeSort fun u v => !decide (v < u)

end Uid

end Conformance
