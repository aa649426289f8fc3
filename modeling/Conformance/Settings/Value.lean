import Conformance.Text.Case
import Conformance.Text.Scan
import Conformance.Uid

/-!
What a source may give for a setting, and the readings of it: a value of one kind stands for one of
another where that can be meant, such as `"yes"` for true and `"12"` for twelve.
-/

namespace Conformance

inductive Setting where
  | bool (value : Bool)
  | int (value : Int)
  | float (value : Float)
  | text (value : String)
  /-- No value, or values within a value; no setting is read from it. -/
  | unfit
deriving Inhabited

namespace Setting

def wordFlag? (word : String) : Option Bool :=
  let word := Text.lower word
  if ["true", "on", "yes"].contains word then some true
  else if ["false", "off", "no"].contains word then some false
  else none

/-- Decimal digits after at most one plus sign. -/
def decimalText? (text : String) : Option Nat :=
  let digits := match text.toList with
    | '+' :: digits => digits
    | digits => digits
  match Text.spanDigits digits with
  | (d :: ds, []) => some (Text.ofDigits 10 (d :: ds))
  | _ => none

/-- A natural number; fractions are rounded and kept within 64 bits. -/
def natural? : Setting → Option Nat
  | .bool value => some value.toNat
  | .int value => if 0 ≤ value then some value.toNat else none
  | .float value => some value.round.toUInt64.toNat
  | .text value => ((wordFlag? value).map Bool.toNat).or (decimalText? value)
  | .unfit => none

def naturalBelow? (bound : Nat) (s : Setting) : Option Nat := s.natural?.filter (· < bound)

def word32? (s : Setting) : Option UInt32 := (s.naturalBelow? UInt32.size).map .ofNat

def word64? (s : Setting) : Option UInt64 := (s.naturalBelow? UInt64.size).map .ofNat

/-- A truth value; every number but zero is true. -/
def flag? : Setting → Option Bool
  | .bool value => some value
  | .int value => some (value != 0)
  | .float value => some (value != 0)
  | .text "1" => some true
  | .text "0" => some false
  | .text value => wordFlag? value
  | .unfit => none

def uid? : Setting → Option Uid
  | .text value => (Uid.ofText value).toOption
  | _ => none

end Setting

end Conformance
