import Conformance.Json.Form
import Conformance.Text.Blank
import Conformance.Text.Scan

/-!
Points in time to the nanosecond. They are written as date and time of day in universal time; reading
takes any offset, a blank for the `T`, and blanks between the parts.
-/

namespace Conformance

/-- Seconds since the start of 1970; a billion nanoseconds and more stand for a leap second. -/
structure Timestamp where
  seconds : Int
  nanos : Nat
deriving DecidableEq, Inhabited

namespace Timestamp

def isLeapYear (year : Int) : Bool := year % 4 == 0 && (year % 100 != 0 || year % 400 == 0)

def daysInMonth (year : Int) (month : Nat) : Nat :=
  if month = 2 then if isLeapYear year then 29 else 28
  else if month = 4 ∨ month = 6 ∨ month = 9 ∨ month = 11 then 30
  else 31

/-- Days from the start of 1970 to a date, by years that start in March and eras of 400 of them. -/
def daysOfDate (year : Int) (month day : Nat) : Int :=
  let y := if month ≤ 2 then year - 1 else year
  let era := y.fdiv 400
  let yearOfEra := y - era * 400
  let monthFromMarch : Nat := (month + 9) % 12
  let dayOfYear : Int := ((153 * monthFromMarch + 2) / 5 + day - 1 : Nat)
  let dayOfEra := yearOfEra * 365 + yearOfEra / 4 - yearOfEra / 100 + dayOfYear
  era * 146097 + dayOfEra - 719468

def dateOfDays (days : Int) : Int × Nat × Nat :=
  let z := days + 719468
  let era := z.fdiv 146097
  let dayOfEra := z - era * 146097
  let yearOfEra := (dayOfEra - dayOfEra / 1460 + dayOfEra / 36524 - dayOfEra / 146096) / 365
  let dayOfYear := (dayOfEra - (365 * yearOfEra + yearOfEra / 4 - yearOfEra / 100)).toNat
  let monthFromMarch := (5 * dayOfYear + 2) / 153
  let day := dayOfYear - (153 * monthFromMarch + 2) / 5 + 1
  let month := if monthFromMarch < 10 then monthFromMarch + 3 else monthFromMarch - 9
  let year := yearOfEra + era * 400
  (if month ≤ 2 then year + 1 else year, month, day)

def padded (width n : Nat) : String :=
  let digits := toString n
  String.ofList (List.replicate (width - digits.length) '0') ++ digits

/-- The fraction of a second with as many digits as it takes, in steps of three. -/
def fractionText (nanos : Nat) : String :=
  if nanos = 0 then ""
  else if nanos % 1000000 = 0 then "." ++ padded 3 (nanos / 1000000)
  else if nanos % 1000 = 0 then "." ++ padded 6 (nanos / 1000)
  else "." ++ padded 9 nanos

/-- Years of more than four digits, and those before the first, have a sign. -/
def yearText (year : Int) : String :=
  if 0 ≤ year ∧ year ≤ 9999 then padded 4 year.toNat
  else (if year < 0 then "-" else "+") ++ padded 4 year.natAbs

def display (t : Timestamp) : String :=
  let days := t.seconds.fdiv 86400
  let second := (t.seconds - days * 86400).toNat
  let (year, month, day) := dateOfDays days
  let leap := decide (1000000000 ≤ t.nanos)
  let shown := if leap then second % 60 + 1 else second % 60
  yearText year ++ "-" ++ padded 2 month ++ "-" ++ padded 2 day ++ "T" ++ padded 2 (second / 3600) ++ ":"
    ++ padded 2 (second / 60 % 60) ++ ":" ++ padded 2 shown
    ++ fractionText (if leap then t.nanos - 1000000000 else t.nanos) ++ "Z"

open Text (digit?)

/-- Up to `width` digits, with the value and the count of those read so far. -/
def digitsFrom (value count : Nat) : (width : Nat) → List Char → (Nat × Nat) × List Char
  | 0, text => ((value, count), text)
  | _ + 1, [] => ((value, count), [])
  | width + 1, c :: rest =>
    match digit? c with
    | some d => digitsFrom (value * 10 + d) (count + 1) width rest
    | none => ((value, count), c :: rest)

/-- One to `width` digits after blanks, with a value within the bounds. -/
def number? (width low high : Nat) (text : List Char) : Option (Nat × List Char) :=
  match digitsFrom 0 0 width (Text.trimStart text) with
  | ((_, 0), _) => none
  | ((value, _), rest) => if low ≤ value ∧ value ≤ high then some (value, rest) else none

/-- The greatest year, in either direction, that a date may have. -/
def lastYear : Nat := 262142

/-- A year of four digits at most, or of any number of them after a sign. -/
def year? (text : List Char) : Option (Int × List Char) :=
  match Text.trimStart text with
  | '-' :: rest => match rest with
    | c :: _ => if (digit? c).isSome then
        (number? rest.length 0 (lastYear + 1) rest).map fun (n, rest) => (-(n : Int), rest) else none
    | [] => none
  | '+' :: rest => match rest with
    | c :: _ => if (digit? c).isSome then
        (number? rest.length 0 lastYear rest).map fun (n, rest) => ((n : Int), rest) else none
    | [] => none
  | text => (number? 4 0 9999 text).map fun (n, rest) => ((n : Int), rest)

def mark? (mark : Char) (text : List Char) : Option (List Char) :=
  match Text.trimStart text with
  | c :: rest => if c = mark then some rest else none
  | [] => none

/-- The nanoseconds of a fraction, if there is one; digits past the ninth are dropped. -/
def fraction? : List Char → Option (Nat × List Char)
  | '.' :: rest =>
    match digitsFrom 0 0 9 rest with
    | ((_, 0), _) => none
    | ((value, count), rest) =>
      some (value * Nat.pow 10 (9 - count), rest.dropWhile fun c => (digit? c).isSome)
  | text => some (0, text)

/-- The offset from universal time in seconds: a letter, a name, or a sign with hours and minutes. -/
def offset? (text : List Char) : Option (Int × List Char) :=
  let signed (negative : Bool) : List Char → Option (Int × List Char)
    | h₁ :: h₂ :: rest => do
      let hours := 10 * (← digit? h₁) + (← digit? h₂)
      match rest.dropWhile fun c => c == ':' || Text.isBlank c with
      | m₁ :: m₂ :: rest =>
        let tens ← digit? m₁
        let minutes := 10 * tens + (← digit? m₂)
        let seconds : Int := ((hours * 60 + minutes) * 60 : Nat)
        if tens ≤ 5 then some (if negative then -seconds else seconds, rest) else none
      | _ => none
    | _ => none
  match text with
  | 'Z' :: rest => some (0, rest)
  | 'z' :: rest => some (0, rest)
  | '+' :: rest => signed false rest
  | '-' :: rest => signed true rest
  | '\u2212' :: rest => signed true rest
  | a :: b :: c :: rest =>
    if [a, b, c].map Char.toUpper = ['U', 'T', 'C'] then some (0, rest) else none
  | _ => none

def firstSecond : Int := daysOfDate (-(lastYear + 1)) 1 1 * 86400

def lastSecond : Int := daysOfDate lastYear 12 31 * 86400 + 86399

/--
Reads a point in time; the date has to exist and the offset to be less than a day. The year may not
pass the last one in universal time either.
-/
def ofText? (text : String) : Option Timestamp := do
  let (year, rest) ← year? text.toList
  let (month, rest) ← number? 2 1 12 (← mark? '-' rest)
  let (day, rest) ← number? 2 1 31 (← mark? '-' rest)
  let rest ← match rest with
    | c :: rest => if c = 'T' ∨ c = 't' ∨ c = ' ' then some rest else none
    | [] => none
  let (hour, rest) ← number? 2 0 23 rest
  let (minute, rest) ← number? 2 0 59 (← mark? ':' rest)
  let (second, rest) ← number? 2 0 60 (← mark? ':' rest)
  let (nanos, rest) ← fraction? rest
  let (offset, rest) ← offset? (Text.trimStart rest)
  if (Text.trimStart rest).isEmpty ∧ day ≤ daysInMonth year month ∧ offset.natAbs < 86400 then
    let ofDay : Int := (hour * 3600 + minute * 60 + min second 59 : Nat)
    let seconds := daysOfDate year month day * 86400 + ofDay - offset
    if firstSecond ≤ seconds ∧ seconds ≤ lastSecond then
      some ⟨seconds, if second = 60 then nanos + 1000000000 else nanos⟩
    else none
  else none

instance : JsonForm Timestamp where
  encode t := .str t.display
  decode?
    | .str text => ofText? text
    | _ => none

end Timestamp

end Conformance
