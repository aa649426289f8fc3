import Conformance.Decimal.Shortest
import Conformance.Json.Basic

/-!
Numbers of JSON documents as text. A floating-point number is written with the fewest digits that
read back, in positional notation from `1e-5` up to but not including `1e16` and with an exponent
elsewhere; a positional integer keeps its `.0`, and an exponent has its sign.
-/

namespace Conformance.Json

def zeros (count : Nat) : String := String.ofList (List.replicate count '0')

def exponentText (e : Int) : String := (if 0 ≤ e then "e+" else "e") ++ toString e

/-- The layout of a positive decimal; `point` is the place of the decimal point after the digits' start. -/
def decimalText (d : Decimal) : String :=
  let digits := toString d.digits
  let point : Int := digits.length + d.exponent
  let first := (digits.take 1).toString
  let others := (digits.drop 1).toString
  if 0 ≤ d.exponent ∧ point ≤ 16 then digits ++ zeros d.exponent.toNat ++ ".0"
  else if 0 < point ∧ point ≤ 16 then
    (digits.take point.toNat).toString ++ "." ++ (digits.drop point.toNat).toString
  else if -5 < point ∧ point ≤ 0 then "0." ++ zeros (-point).toNat ++ digits
  else if others.isEmpty then first ++ exponentText (point - 1)
  else first ++ "." ++ others ++ exponentText (point - 1)

/-- The text of a floating-point number; JSON has none for what is not finite. -/
def floatText (x : Float) : String :=
  if x.isNaN || x.isInf then "null"
  else
    let sign := if Double.isNegative x then "-" else ""
    let (m, q) := Double.parts x
    if m = 0 then sign ++ "0.0" else sign ++ decimalText (Double.shortest m q)

/-- Decimal digits as read: what fits in 64 bits, and the power of ten that is left. -/
structure Significand where
  value : Nat
  exponent : Int
deriving Inhabited

/-- One more digit of the integer part; past 64 bits a digit only moves the point. -/
def Significand.pushInteger (s : Significand) (digit : Nat) : Significand :=
  if s.value * 10 + digit < UInt64.size ∧ s.exponent = 0 then ⟨s.value * 10 + digit, 0⟩
  else ⟨s.value, s.exponent + 1⟩

/-- One more digit of the fraction; `full` tells that an earlier one was dropped. -/
def Significand.pushFraction (s : Significand × Bool) (digit : Nat) : Significand × Bool :=
  if s.2 = false ∧ s.1.value * 10 + digit < UInt64.size then (⟨s.1.value * 10 + digit, s.1.exponent - 1⟩, false)
  else (s.1, true)

def powerOfTen (n : Nat) : Float := Float.ofScientific 1 false n

/--
The double that a significand stands for: one rounded product with, or quotient by, a power of ten.
Exponents below the least power are taken in two steps; a product that is not finite is no number.
-/
def Significand.toFloat? (s : Significand) : Option Float :=
  let f := Float.ofNat s.value
  let product (x : Float) : Option Float := if x.isInf then none else some x
  match s.exponent with
  | .ofNat e => if e ≤ 308 then product (f * powerOfTen e) else if s.value = 0 then some f else none
  | .negSucc e =>
    if e + 1 ≤ 308 then some (f / powerOfTen (e + 1))
    else if e + 1 ≤ 616 then some (f / powerOfTen 308 / powerOfTen (e + 1 - 308))
    else some 0

end Conformance.Json
