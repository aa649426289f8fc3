import Conformance.Decimal.Shortest

/-!
The double nearest to a decimal.
-/

namespace Conformance.Decimal

/-- The nearest double. Decimals past the greatest double are infinite, those too small are zero. -/
def toFloat (d : Decimal) : Float :=
  let magnitude : Int := digitCount d.digits + d.exponent
  if d.digits = 0 ∨ magnitude < -330 then 0
  else if 310 < magnitude then 1 / 0
  else
    match d.exponent with
    | .ofNat e => Float.ofScientific d.digits false e
    | .negSucc e => Float.ofScientific d.digits true (e + 1)

end Conformance.Decimal
