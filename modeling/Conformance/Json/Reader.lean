import Conformance.Json.Number
import Conformance.Text.Hex
import Conformance.Text.Scan

/-!
Reading JSON text. Integers that fit 64 bits, signed or unsigned, stay integers; all other numbers,
and `-0`, are floating-point. A document may nest 127 levels deep, and of two members of one name
the later is kept.
-/

namespace Conformance.Json.Reader

open Text (spanDigits ofDigits expect? sign)

/-- A reading step: what was read and the text after it, or nothing if the text is not of the form. -/
abbrev Step (α : Type) := Option (α × List Char)

def isBlank (c : Char) : Bool := c == ' ' || c == '\n' || c == '\t' || c == '\r'

def skipBlanks (text : List Char) : List Char := text.dropWhile isBlank

/-- The digits of an integer part: one zero, or digits that start with another. -/
def integerPart (text : List Char) : Step (List Nat) :=
  match spanDigits text with
  | ([], _) => none
  | ([0], rest) => some ([0], rest)
  | (0 :: _ :: _, _) => none
  | found => some found

/-- The digits after a decimal point, if there is one; then there has to be a digit. -/
def fractionPart : List Char → Step (Option (List Nat))
  | '.' :: rest =>
    match spanDigits rest with
    | ([], _) => none
    | (digits, after) => some (some digits, after)
  | text => some (none, text)

def exponentPart (text : List Char) : Step (Option Int) :=
  match text with
  | 'e' :: rest | 'E' :: rest =>
    let (negative, rest) := sign rest
    match spanDigits rest with
    | ([], _) => none
    | (digits, after) =>
      let value : Nat := ofDigits 10 digits
      some (some (if negative then -value else value), after)
  | text => some (none, text)

def numberOf? (negative : Bool) (whole : List Nat) (fraction : Option (List Nat)) (exponent : Option Int) :
    Option Json :=
  let lead := whole.foldl Significand.pushInteger ⟨0, 0⟩
  let signed (x : Float) : Json := .float (if negative then -x else x)
  match fraction, exponent with
  | none, none =>
    if lead.exponent ≠ 0 then lead.toFloat?.map signed
    else if negative = false then some (.int lead.value)
    else if lead.value = 0 ∨ lead.value > UInt64.size / 2 then some (signed (Float.ofNat lead.value))
    else some (.int (-lead.value))
  | fraction, exponent =>
    let (s, _) := (fraction.getD []).foldl Significand.pushFraction (lead, false)
    (Significand.toFloat? ⟨s.value, s.exponent + exponent.getD 0⟩).map signed

def number (text : List Char) : Option (Json × List Char) := do
  let (negative, text) := match text with
    | '-' :: rest => (true, rest)
    | text => (false, text)
  let (whole, text) ← integerPart text
  let (fraction, text) ← fractionPart text
  let (exponent, text) ← exponentPart text
  let value ← numberOf? negative whole fraction exponent
  some (value, text)

def hex4 : List Char → Step Nat
  | a :: b :: c :: d :: rest => (Hex.value? [a, b, c, d]).map (·, rest)
  | _ => none

/-- The character of an escape, after the backslash; one beyond sixteen bits is a pair of escapes. -/
def escape : List Char → Option (Char × List Char)
  | '"' :: rest => some ('"', rest)
  | '\\' :: rest => some ('\\', rest)
  | '/' :: rest => some ('/', rest)
  | 'b' :: rest => some (Char.ofNat 8, rest)
  | 'f' :: rest => some (Char.ofNat 12, rest)
  | 'n' :: rest => some ('\n', rest)
  | 'r' :: rest => some ('\r', rest)
  | 't' :: rest => some ('\t', rest)
  | 'u' :: rest => do
    let (unit, rest) ← hex4 rest
    if 0xd800 ≤ unit ∧ unit < 0xdc00 then
      match rest with
      | '\\' :: 'u' :: rest =>
        let (low, rest) ← hex4 rest
        if 0xdc00 ≤ low ∧ low < 0xe000 then
          some (Char.ofNat (0x10000 + (unit - 0xd800) * 0x400 + (low - 0xdc00)), rest)
        else none
      | _ => none
    else if 0xdc00 ≤ unit ∧ unit < 0xe000 then none
    else some (Char.ofNat unit, rest)
  | _ => none

/-- The rest of a string after its opening quote; `read` holds its characters so far, last first. -/
def stringBody : (fuel : Nat) → (read : List Char) → List Char → Option (String × List Char)
  | 0, _, _ => none
  | _ + 1, _, [] => none
  | _ + 1, read, '"' :: rest => some (String.ofList read.reverse, rest)
  | fuel + 1, read, '\\' :: rest => do
    let (c, rest) ← escape rest
    stringBody fuel (c :: read) rest
  | fuel + 1, read, c :: rest => if c.toNat < 32 then none else stringBody fuel (c :: read) rest

def quotedText (text : List Char) : Step String := stringBody (text.length + 1) [] text

mutual

/-- One value; every call reads a character or more, so a fuel of the text's length is enough. -/
def value : (fuel depth : Nat) → List Char → Step Json
  | 0, _, _ => none
  | fuel + 1, depth, text =>
    match skipBlanks text with
    | '"' :: rest => (quotedText rest).map fun (text, rest) => (.str text, rest)
    | '[' :: rest =>
      match depth with
      | 0 => none
      | depth + 1 =>
        match skipBlanks rest with
        | ']' :: rest => some (.arr [], rest)
        | rest => items fuel depth [] rest
    | '\x7b' :: rest =>
      match depth with
      | 0 => none
      | depth + 1 =>
        match skipBlanks rest with
        | '\x7d' :: rest => some (.obj [], rest)
        | rest => members fuel depth SortedMap.empty rest
    | 'n' :: rest => (expect? ['u', 'l', 'l'] rest).map (.null, ·)
    | 't' :: rest => (expect? ['r', 'u', 'e'] rest).map (.bool true, ·)
    | 'f' :: rest => (expect? ['a', 'l', 's', 'e'] rest).map (.bool false, ·)
    | text => number text

def items : (fuel depth : Nat) → (read : List Json) → List Char → Step Json
  | 0, _, _, _ => none
  | fuel + 1, depth, read, text =>
    match value fuel depth text with
    | none => none
    | some (item, rest) =>
      match skipBlanks rest with
      | ',' :: rest => items fuel depth (item :: read) rest
      | ']' :: rest => some (.arr (item :: read).reverse, rest)
      | _ => none

def members : (fuel depth : Nat) → (read : SortedMap String Json) → List Char → Step Json
  | 0, _, _, _ => none
  | fuel + 1, depth, read, text =>
    match skipBlanks text with
    | '"' :: rest =>
      match quotedText rest with
      | none => none
      | some (key, rest) =>
        match skipBlanks rest with
        | ':' :: rest =>
          match value fuel depth rest with
          | none => none
          | some (item, rest) =>
            match skipBlanks rest with
            | ',' :: rest => members fuel depth (read.insert key item) rest
            | '\x7d' :: rest => some (.obj (read.insert key item).entries, rest)
            | _ => none
        | _ => none
    | _ => none

end

end Conformance.Json.Reader

def Conformance.Json.ofText? (text : String) : Option Conformance.Json :=
  let chars := text.toList
  match Conformance.Json.Reader.value (2 * chars.length + 2) 127 chars with
  | some (document, rest) =>
    if (Conformance.Json.Reader.skipBlanks rest).isEmpty then some document else none
  | none => none
