import Conformance.Decimal.Nearest
import Conformance.Settings.Layer

/-!
Settings from environment variables. A variable such as `RDM_UNIVERSE` sets the name after its
prefix, in any case; its text is a truth value, a number or, failing these, itself.
-/

namespace Conformance

/-- Variables by name, with their texts. -/
abbrev Environment := List (String × String)

namespace Environment

/-- How the name of a variable starts that gives a setting, in lower case. -/
def lead : List Char := ['r', 'd', 'm', '_']

/-- The key that a variable sets: two underscores stand for the point between a name and one within it. -/
def key? (name : String) : Option String :=
  (Text.expect? lead (Text.lower name).toList).map fun key => String.ofList (points key)
where
  points : List Char → List Char
    | '_' :: '_' :: rest => '.' :: points rest
    | c :: rest => c :: points rest
    | [] => []

def integer? (text : List Char) : Option Int :=
  let (negative, digits) := Text.sign text
  match Text.spanDigits digits with
  | (d :: ds, []) => Text.signed64? negative (d :: ds)
  | _ => none

/-- The exponent that the rest of a number is; none is zero. -/
def exponent? : List Char → Option Int
  | [] => some 0
  | 'e' :: rest | 'E' :: rest =>
    let (negative, digits) := Text.sign rest
    match Text.spanDigits digits with
    | (d :: ds, []) =>
      let magnitude : Int := Text.ofDigits 10 (d :: ds)
      some (if negative then -magnitude else magnitude)
    | _ => none
  | _ => none

/-- Digits with a point before, among or after them, and an exponent. -/
def decimal? (text : List Char) : Option Decimal := do
  let (whole, rest) := Text.spanDigits text
  let (fraction, rest) := match rest with
    | '.' :: rest => Text.spanDigits rest
    | rest => ([], rest)
  let exponent ← exponent? rest
  if whole.isEmpty && fraction.isEmpty then none
  else some ⟨Text.ofDigits 10 (whole ++ fraction), exponent - fraction.length⟩

/-- A decimal number, infinity, or what is not a number, with a sign. -/
def float? (text : List Char) : Option Float :=
  let (negative, rest) := Text.sign text
  let magnitude : Option Float :=
    match Text.lower (String.ofList rest) with
    | "inf" | "infinity" => some (1 / 0)
    | "nan" => some (0 / 0)
    | _ => (decimal? rest).map Decimal.toFloat
  magnitude.map fun x => if negative then -x else x

def value (text : String) : Setting :=
  match Text.lower text with
  | "true" => .bool true
  | "false" => .bool false
  | _ =>
    match integer? text.toList, float? text.toList with
    | some value, _ => .int value
    | none, some value => .float value
    | none, none => .text text

def layer (environment : Environment) : Layer :=
  environment.filterMap fun (name, text) => (key? name).bind fun key => Layer.entry? key (some (value text))

end Environment

end Conformance
