import Conformance.Timestamp
import Conformance.Toml.Basic

/-!
Dates and times of day in TOML: a date, a time, or a date with a time and maybe its offset from
universal time. Dates have to exist.
-/

namespace Conformance.Toml.Reader

open Text (digit?)

def twoDigits (low high : Nat) : List Char → Option (Nat × List Char)
  | a :: b :: rest => do
    let value := 10 * (← digit? a) + (← digit? b)
    if low ≤ value ∧ value ≤ high then some (value, rest) else none
  | _ => none

def mark? (mark : Char) : List Char → Option (List Char)
  | c :: rest => if c = mark then some rest else none
  | [] => none

def afterDate? (text : List Char) : Option (List Char) := do
  let (century, rest) ← twoDigits 0 99 text
  let (year, rest) ← twoDigits 0 99 rest
  let (month, rest) ← twoDigits 1 12 (← mark? '-' rest)
  let (day, rest) ← twoDigits 1 31 (← mark? '-' rest)
  if day ≤ Timestamp.daysInMonth (100 * century + year : Nat) month then some rest else none

/-- The text after a time of day; digits of a fraction follow a point. -/
def afterTime? (text : List Char) : Option (List Char) := do
  let (_, rest) ← twoDigits 0 23 text
  let (_, rest) ← twoDigits 0 59 (← mark? ':' rest)
  let (_, rest) ← twoDigits 0 60 (← mark? ':' rest)
  match rest with
  | '.' :: c :: after =>
    if (digit? c).isSome then some (after.dropWhile fun c => (digit? c).isSome) else some rest
  | _ => some rest

/-- The text after an offset: a letter, or a sign with hours and minutes. -/
def afterOffset? : List Char → Option (List Char)
  | 'Z' :: rest | 'z' :: rest => some rest
  | '+' :: rest | '-' :: rest => do
    let (_, rest) ← twoDigits 0 23 rest
    let (_, rest) ← twoDigits 0 59 (← mark? ':' rest)
    some rest
  | _ => none

def afterTimeOfDate (text : List Char) : List Char :=
  match text with
  | c :: rest =>
    if c = 'T' ∨ c = 't' ∨ c = ' ' then
      match afterTime? rest with
      | some rest => (afterOffset? rest).getD rest
      | none => text
    else text
  | [] => text

def afterMoment? (text : List Char) : Option (List Char) :=
  match afterDate? text with
  | some rest => some (afterTimeOfDate rest)
  | none => afterTime? text

def moment (text : List Char) : Option (Toml × List Char) := do
  let rest ← afterMoment? text
  some (.moment (String.ofList (text.take (text.length - rest.length))), rest)

end Conformance.Toml.Reader
