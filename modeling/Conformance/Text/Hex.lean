/-!
Numbers in base sixteen: lower-case digits of a fixed width when writing, digits of either case when
reading. Reading a padded number gives it back.
-/

namespace Conformance.Hex

def digitChar (d : Nat) : Char :=
  if d < 10 then Char.ofNat (48 + d) else Char.ofNat (87 + d)

/-- The value of one digit; only the ASCII digits and the letters a to f, of either case, have one. -/
def digitValue? (c : Char) : Option Nat :=
  let n := c.toNat
  if 48 ≤ n ∧ n ≤ 57 then some (n - 48)
  else if 65 ≤ n ∧ n ≤ 70 then some (n - 55)
  else if 97 ≤ n ∧ n ≤ 102 then some (n - 87)
  else none

/-- The lowest `width` digits of a number, most significant first. -/
def padded : (width : Nat) → Nat → List Char
  | 0, _ => []
  | width + 1, n => padded width (n / 16) ++ [digitChar (n % 16)]

/-- The digits of a number without leading zeros; zero is one digit. -/
def digits (n : Nat) : List Char :=
  if n < 16 then [digitChar n] else digits (n / 16) ++ [digitChar (n % 16)]
termination_by n

/-- The number that follows `value` when the digits of the text are read after it. -/
def valueFrom? (value : Nat) : List Char → Option Nat
  | [] => some value
  | c :: rest => (digitValue? c).bind fun d => valueFrom? (16 * value + d) rest

def value? : List Char → Option Nat
  | [] => none
  | text => valueFrom? 0 text

end Conformance.Hex
