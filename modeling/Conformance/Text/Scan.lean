/-!
Reading text piece by piece: each step takes something off the start of the text and leaves the rest.
-/

namespace Conformance.Text

/-- The value of a decimal digit; only the ASCII digits have one. -/
def digit? (c : Char) : Option Nat :=
  if 48 ≤ c.toNat ∧ c.toNat ≤ 57 then some (c.toNat - 48) else none

def spanDigits : List Char → List Nat × List Char
  | [] => ([], [])
  | c :: rest =>
    match digit? c with
    | some d => let (digits, after) := spanDigits rest; (d :: digits, after)
    | none => ([], c :: rest)

def ofDigits (base : Nat) (digits : List Nat) : Nat := digits.foldl (fun n d => n * base + d) 0

/-- The whole number of a sign and decimal digits, if 64 bits hold it. -/
def signed64? (negative : Bool) (digits : List Nat) : Option Int :=
  let magnitude : Int := ofDigits 10 digits
  let value := if negative then -magnitude else magnitude
  if Int64.minValue.toInt ≤ value ∧ value ≤ Int64.maxValue.toInt then some value else none

/-- Drops the given characters from the start of the text. -/
def expect? : (wanted : List Char) → List Char → Option (List Char)
  | [], text => some text
  | w :: wanted, c :: rest => if w = c then expect? wanted rest else none
  | _ :: _, [] => none

/-- A sign at the start of the text, if there is one: whether it is a minus, and the rest. -/
def sign : List Char → Bool × List Char
  | '-' :: rest => (true, rest)
  | '+' :: rest => (false, rest)
  | text => (false, text)

end Conformance.Text
