import Conformance.Decimal.Nearest
import Conformance.Text.Hex
import Conformance.Text.Scan
import Conformance.Toml.Basic

/-!
Numbers in TOML. Integers have 64 bits and a sign; hexadecimal, octal and binary ones have a letter
for their base and no sign. An underscore may stand between two digits.
-/

namespace Conformance.Toml.Reader

open Text (digit? ofDigits expect? sign signed64?)

def digitBelow? (base : Nat) (c : Char) : Option Nat := (Hex.digitValue? c).filter (· < base)

def moreDigits (digit? : Char → Option Nat) : List Char → List Nat × List Char
  | [] => ([], [])
  | '_' :: c :: rest =>
    match digit? c with
    | some d => let (digits, after) := moreDigits digit? rest; (d :: digits, after)
    | none => ([], '_' :: c :: rest)
  | c :: rest =>
    match digit? c with
    | some d => let (digits, after) := moreDigits digit? rest; (d :: digits, after)
    | none => ([], c :: rest)

def digits (digit? : Char → Option Nat) : List Char → Option (List Nat × List Char)
  | [] => none
  | c :: rest =>
    (digit? c).map fun d => let (digits, after) := moreDigits digit? rest; (d :: digits, after)

/-- The digits of an integer part: one zero, or digits that start with another. -/
def wholePart : List Char → Option (List Nat × List Char)
  | '0' :: rest => some ([0], rest)
  | text => digits digit? text

def fractionPart : List Char → Option (List Nat × List Char)
  | '.' :: rest => digits digit? rest
  | _ => none

def exponentPart : List Char → Option (Int × List Char)
  | 'e' :: rest | 'E' :: rest => do
    let (negative, rest) := sign rest
    let (exponent, rest) ← digits digit? rest
    let value : Int := ofDigits 10 exponent
    some (if negative then -value else value, rest)
  | _ => none

/-- A number with a fraction, an exponent or both. One past the greatest double is refused. -/
def decimal (text : List Char) : Option (Toml × List Char) := do
  let (negative, rest) := sign text
  let (whole, rest) ← wholePart rest
  let (fraction, exponent, rest) ← match fractionPart rest with
    | some (fraction, rest) =>
      match exponentPart rest with
      | some (exponent, rest) => some (fraction, exponent, rest)
      | none => some (fraction, 0, rest)
    | none => (exponentPart rest).map fun (exponent, rest) => ([], exponent, rest)
  let magnitude := Decimal.toFloat ⟨ofDigits 10 (whole ++ fraction), exponent - fraction.length⟩
  if negative then some (.float (-magnitude), rest)
  else if magnitude.isInf then none
  else some (.float magnitude, rest)

def special (text : List Char) : Option (Toml × List Char) :=
  let (negative, rest) := sign text
  match expect? ['i', 'n', 'f'] rest, expect? ['n', 'a', 'n'] rest with
  | some rest, _ => some (.float (if negative then -1 / 0 else 1 / 0), rest)
  | none, some rest => some (.float (0 / 0), rest)
  | none, none => none

/-- An integer of the base that the letter after its zero stands for, or a decimal one. -/
def integer (text : List Char) : Option (Toml × List Char) :=
  let inBase (base : Nat) (text : List Char) : Option (Toml × List Char) := do
    let (read, rest) ← digits (digitBelow? base) text
    let value := ofDigits base read
    if value < UInt64.size / 2 then some (.int value, rest) else none
  match text with
  | '0' :: 'x' :: rest => inBase 16 rest
  | '0' :: 'o' :: rest => inBase 8 rest
  | '0' :: 'b' :: rest => inBase 2 rest
  | text => do
    let (negative, rest) := sign text
    let (read, rest) ← wholePart rest
    (signed64? negative read).map fun value => (.int value, rest)

def number (text : List Char) : Option (Toml × List Char) := decimal text <|> special text <|> integer text

end Conformance.Toml.Reader
