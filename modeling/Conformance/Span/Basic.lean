/-!
Spans of time as seconds and nanoseconds. `toNanos` is the view: all arithmetic is stated through
it, and a sum that does not fit is no span. `sleepNanos` is how long a sleep of the span takes.
-/

namespace Conformance

def nanosPerSec : Nat := 1000000000

structure Span where
  secs : UInt64
  nanos : UInt32
  nanos_lt : nanos.toNat < 1000000000
deriving DecidableEq

namespace Span

def zero : Span := ⟨0, 0, by decide⟩

instance : Inhabited Span := ⟨zero⟩

def toNanos (s : Span) : Nat := s.secs.toNat * nanosPerSec + s.nanos.toNat

def ofFields (secs : UInt64) (nanos : Nat) : Span where
  secs := secs
  nanos := UInt32.ofNat (nanos % nanosPerSec)
  nanos_lt := by
    have : nanos % nanosPerSec < 1000000000 := Nat.mod_lt _ (by decide)
    rw [UInt32.toNat_ofNat_of_lt' (Nat.lt_trans this (by decide))]
    exact this

/-- The span of the given length, for lengths that fit. -/
def ofNanos (n : Nat) : Span := ofFields (UInt64.ofNat (n / nanosPerSec)) n

def ofMillis (ms : UInt64) : Span := ofNanos (ms.toNat * 1000000)

/-- Whole milliseconds, rounded down. -/
def toMillis (s : Span) : Nat := s.toNanos / 1000000

/-- No sleep lasts longer: thirty years of 365 days, in milliseconds. -/
def longestSleepMillis : Nat := 30 * 365 * 86400 * 1000

/--
How long a sleep of the span takes, in nanoseconds: whole milliseconds, rounded up, and no more than
the longest sleep.
-/
def sleepNanos (s : Span) : Nat := min ((s.toNanos + 999999) / 1000000) longestSleepMillis * 1000000

theorem sleepNanos_eq_toNanos {s : Span} (whole : s.toNanos % 1000000 = 0)
    (short : s.toNanos ≤ longestSleepMillis * 1000000) : s.sleepNanos = s.toNanos := by
  rw [sleepNanos]
  omega

/-- Seconds and nanoseconds, where a billion nanoseconds or more carry into the seconds. -/
def ofParts? (secs nanos : Nat) : Option Span :=
  let carried := secs + nanos / nanosPerSec
  if carried < UInt64.size then some (ofFields (UInt64.ofNat carried) nanos) else none

instance : LT Span := ⟨fun s t => s.secs < t.secs ∨ s.secs = t.secs ∧ s.nanos < t.nanos⟩

instance (s t : Span) : Decidable (s < t) := inferInstanceAs (Decidable (_ ∨ _))

def min (s t : Span) : Span := if t < s then t else s

def max (s t : Span) : Span := if t < s then s else t

/-- The sum, part by part with a carry; none if the seconds do not fit. -/
def add? (s t : Span) : Option Span :=
  let nanos := s.nanos.toNat + t.nanos.toNat
  let secs := s.secs.toNat + t.secs.toNat + nanos / nanosPerSec
  if secs < UInt64.size then some (ofFields (UInt64.ofNat secs) nanos) else none

def sum? (spans : List Span) : Option Span := spans.foldlM add? zero

/--
The span divided by a count that is not zero, and rounded down: each part is divided on its own, and what is left
of the seconds is divided as nanoseconds.
-/
def divide? (s : Span) (count : UInt32) : Option Span :=
  if count = 0 then none
  else
    let left := s.secs % count.toUInt64 * 1000000000 + (s.nanos % count).toUInt64
    let nanos := s.nanos / count + (left / count.toUInt64).toUInt32
    some (ofFields (s.secs / count.toUInt64) nanos.toNat)

end Span

end Conformance
