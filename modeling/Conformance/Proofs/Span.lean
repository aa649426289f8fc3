import Mathlib.Algebra.Order.BigOperators.Group.List
import Mathlib.Tactic.Ring
import Conformance.Span.Basic

/-!
# The length of a span

What is read as seconds and nanoseconds is a span of the same length, with what exceeds a second carried into the
seconds, unless these no longer fit (`toNanos_of_ofParts?`, `ofParts?_eq_none_iff`). Order, sums and quotients of
spans are those of their lengths (`lt_iff_toNanos_lt`, `sum?_spec`, `toNanos_of_divide?`).
-/

namespace Conformance.Span

variable {s t total : Span} {secs nanos : Nat} {count : UInt32}

theorem toNanos_ofFields (secs : UInt64) (nanos : Nat) :
    (ofFields secs nanos).toNanos = secs.toNat * nanosPerSec + nanos % nanosPerSec := by
  have small : nanos % nanosPerSec < nanosPerSec := Nat.mod_lt _ (by decide)
  rw [toNanos, ofFields, UInt32.toNat_ofNat_of_lt' (Nat.lt_trans small (by decide))]

theorem toNanos_ofNanos {n : Nat} (fits : n < 2 ^ 64 * nanosPerSec) : (ofNanos n).toNanos = n := by
  have secs : n / nanosPerSec < UInt64.size := Nat.div_lt_of_lt_mul (Nat.mul_comm _ _ ▸ fits)
  rw [ofNanos, toNanos_ofFields, UInt64.toNat_ofNat_of_lt' secs, Nat.div_add_mod']

/-- A sleep of the span lasts just as long: it has whole milliseconds and is no longer than the longest sleep. -/
def Whole (s : Span) : Prop := s.toNanos % 1000000 = 0 ∧ s.toNanos ≤ longestSleepMillis * 1000000

theorem Whole.sleepNanos_eq (whole : s.Whole) : s.sleepNanos = s.toNanos := sleepNanos_eq_toNanos whole.1 whole.2

theorem toNanos_ofMillis (ms : UInt64) : (ofMillis ms).toNanos = ms.toNat * 1000000 := by
  have word := ms.toNat_lt
  refine toNanos_ofNanos ?_
  simp only [nanosPerSec]
  omega

theorem whole_ofMillis {ms : UInt64} (short : ms.toNat ≤ longestSleepMillis) : (ofMillis ms).Whole := by
  rw [Whole, toNanos_ofMillis]
  exact ⟨Nat.mul_mod_left _ _, Nat.mul_le_mul_right _ short⟩

theorem ofFields_self (s : Span) : ofFields s.secs s.nanos.toNat = s := by
  obtain ⟨secs, nanos, small⟩ := s
  simp [ofFields, nanosPerSec, Nat.mod_eq_of_lt small]

theorem ofParts?_self (s : Span) : ofParts? s.secs.toNat s.nanos.toNat = some s := by
  have carried : s.secs.toNat + s.nanos.toNat / nanosPerSec = s.secs.toNat := by
    rw [Nat.div_eq_of_lt (show s.nanos.toNat < nanosPerSec from s.nanos_lt), Nat.add_zero]
  simp only [ofParts?, carried]
  rw [if_pos s.secs.toNat_lt, UInt64.ofNat_toNat, ofFields_self]

theorem ofParts?_eq_none_iff : ofParts? secs nanos = none ↔ UInt64.size ≤ secs + nanos / nanosPerSec := by
  simp [ofParts?]

theorem toNanos_of_ofParts? (read : ofParts? secs nanos = some s) : s.toNanos = secs * nanosPerSec + nanos := by
  obtain ⟨fits, same⟩ := Option.ite_none_right_eq_some.mp read
  cases same
  rw [toNanos_ofFields, UInt64.toNat_ofNat_of_lt' fits, Nat.add_mul, Nat.add_assoc, Nat.div_add_mod']

theorem toNanos_lt (s : Span) : s.toNanos < 2 ^ 64 * nanosPerSec := by
  have secs := s.secs.toNat_lt
  have nanos := s.nanos_lt
  simp only [toNanos, nanosPerSec]
  omega

theorem lt_iff_toNanos_lt : s < t ↔ s.toNanos < t.toNanos := by
  have spelled : s < t ↔ s.secs.toNat < t.secs.toNat ∨ s.secs.toNat = t.secs.toNat ∧ s.nanos.toNat < t.nanos.toNat := by
    rw [← UInt64.lt_iff_toNat_lt, UInt64.toNat_inj, ← UInt32.lt_iff_toNat_lt]
    rfl
  have small := s.nanos_lt
  have small' := t.nanos_lt
  rw [spelled]
  simp only [toNanos, nanosPerSec]
  omega

/-! ### Sums -/

theorem add?_eq_none_iff : s.add? t = none ↔ 2 ^ 64 * nanosPerSec ≤ s.toNanos + t.toNanos := by
  refine ofParts?_eq_none_iff.trans ?_
  simp only [toNanos, nanosPerSec, UInt64.size]
  omega

theorem toNanos_of_add? (added : s.add? t = some total) : total.toNanos = s.toNanos + t.toNanos := by
  rw [toNanos_of_ofParts? added, toNanos, toNanos, Nat.add_mul]
  omega

theorem foldlM_add? (s : Span) (spans : List Span) :
    (spans.foldlM add? s = none ↔ 2 ^ 64 * nanosPerSec ≤ s.toNanos + (spans.map toNanos).sum) ∧
      ∀ total, spans.foldlM add? s = some total → total.toNanos = s.toNanos + (spans.map toNanos).sum := by
  induction spans generalizing s with
  | nil =>
    constructor
    · simpa using s.toNanos_lt
    · rintro total ⟨⟩
      simp
  | cons t spans ih =>
    rw [List.foldlM_cons, List.map_cons, List.sum_cons]
    cases added : s.add? t with
    | none =>
      have overflow := add?_eq_none_iff.mp added
      exact ⟨⟨fun _ => by omega, fun _ => rfl⟩, nofun⟩
    | some next =>
      obtain ⟨overflows, fits⟩ := ih next
      rw [toNanos_of_add? added, Nat.add_assoc] at overflows fits
      exact ⟨overflows, fits⟩

/-- There is no sum of spans just if their lengths add up to too much, and otherwise it has that length. -/
theorem sum?_spec (spans : List Span) :
    (sum? spans = none ↔ 2 ^ 64 * nanosPerSec ≤ (spans.map toNanos).sum) ∧
      ∀ total, sum? spans = some total → total.toNanos = (spans.map toNanos).sum := by
  have nothing : zero.toNanos = 0 := rfl
  have added := foldlM_add? zero spans
  rwa [nothing, Nat.zero_add] at added

/-! ### Extremes -/

/-- A fold that keeps one of two spans, and does so by a preference, keeps one of all of them by it. -/
theorem foldl_prefers {keep : Span → Span → Span} (prefers : Span → Span → Prop) (refl : ∀ s, prefers s s)
    (trans : ∀ {s t u}, prefers s t → prefers t u → prefers s u)
    (keeps : ∀ s t, (keep s t = s ∨ keep s t = t) ∧ prefers (keep s t) s ∧ prefers (keep s t) t)
    (first : Span) (rest : List Span) :
    rest.foldl keep first ∈ first :: rest ∧ ∀ s ∈ first :: rest, prefers (rest.foldl keep first) s := by
  induction rest generalizing first with
  | nil => exact ⟨List.mem_cons_self, fun s member => List.mem_singleton.mp member ▸ refl _⟩
  | cons next rest ih =>
    obtain ⟨member, best⟩ := ih (keep first next)
    obtain ⟨either, left, right⟩ := keeps first next
    have bests := best _ List.mem_cons_self
    refine ⟨?_, fun s held => ?_⟩
    · rcases List.mem_cons.mp member with kept | later
      · rw [List.foldl_cons, kept]
        rcases either with same | same
        · rw [same]
          exact List.mem_cons_self
        · rw [same]
          exact List.mem_cons_of_mem _ List.mem_cons_self
      · exact List.mem_cons_of_mem _ (List.mem_cons_of_mem _ later)
    · rcases List.mem_cons.mp held with rfl | held
      · exact trans bests left
      · rcases List.mem_cons.mp held with rfl | held
        · exact trans bests right
        · exact best s (List.mem_cons_of_mem _ held)

theorem min_keeps (s t : Span) : (min s t = s ∨ min s t = t) ∧ (min s t).toNanos ≤ s.toNanos ∧
    (min s t).toNanos ≤ t.toNanos := by
  unfold min
  split
  · next less => exact ⟨.inr rfl, Nat.le_of_lt (lt_iff_toNanos_lt.mp less), Nat.le_refl _⟩
  · next least => exact ⟨.inl rfl, Nat.le_refl _, Nat.le_of_not_lt (mt lt_iff_toNanos_lt.mpr least)⟩

theorem max_keeps (s t : Span) : (max s t = s ∨ max s t = t) ∧ s.toNanos ≤ (max s t).toNanos ∧
    t.toNanos ≤ (max s t).toNanos := by
  unfold max
  split
  · next less => exact ⟨.inl rfl, Nat.le_refl _, Nat.le_of_lt (lt_iff_toNanos_lt.mp less)⟩
  · next greatest => exact ⟨.inr rfl, Nat.le_of_not_lt (mt lt_iff_toNanos_lt.mpr greatest), Nat.le_refl _⟩

/-! ### Quotients -/

theorem divide?_eq_none_iff : s.divide? count = none ↔ count = 0 := by
  unfold divide?
  split
  · next zero => simp [zero]
  · next positive => simp [positive]

/-- Division part by part is division of the whole, and nothing in between outgrows its word. -/
theorem div_parts (secs : Nat) {nanos count : Nat} (positive : 0 < count) (small : nanos < nanosPerSec) :
    let left := secs % count * nanosPerSec + nanos % count
    left < count * nanosPerSec ∧ nanos / count + left / count < nanosPerSec ∧
      secs / count * nanosPerSec + (nanos / count + left / count) = (secs * nanosPerSec + nanos) / count := by
  intro left
  have rest : secs % count < count := Nat.mod_lt _ positive
  have below : secs % count * nanosPerSec + nanosPerSec ≤ count * nanosPerSec := by
    rw [← Nat.succ_mul]
    exact Nat.mul_le_mul_right _ rest
  have whole : secs * nanosPerSec + nanos =
      count * (secs / count * nanosPerSec) + (secs % count * nanosPerSec + nanos) := by
    conv_lhs => rw [← Nat.div_add_mod secs count]
    ring
  have parts : (secs % count * nanosPerSec + nanos) / count = nanos / count + left / count := by
    conv_lhs => rw [← Nat.div_add_mod nanos count]
    rw [Nat.add_left_comm, Nat.mul_add_div positive]
  refine ⟨?_, ?_, ?_⟩
  · have part := Nat.mod_le nanos count
    omega
  · rw [← parts, Nat.div_lt_iff_lt_mul positive, Nat.mul_comm nanosPerSec]
    omega
  · rw [whole, Nat.mul_add_div positive, parts]

theorem toNanos_of_divide? (divided : s.divide? count = some t) : t.toNanos = s.toNanos / count.toNat := by
  obtain ⟨nonzero, same⟩ := Option.ite_none_left_eq_some.mp divided
  cases same
  have positive : 0 < count.toNat := Nat.pos_of_ne_zero fun zero => nonzero (UInt32.toNat_inj.mp zero)
  obtain ⟨left, nanos, quotient⟩ := div_parts s.secs.toNat positive s.nanos_lt
  have bound : count.toNat * nanosPerSec < 2 ^ 64 := by
    have word := count.toNat_lt
    simp only [nanosPerSec]
    omega
  have rest : (s.secs % count.toUInt64 * 1000000000 + (s.nanos % count).toUInt64).toNat =
      s.secs.toNat % count.toNat * nanosPerSec + s.nanos.toNat % count.toNat := by
    have billion : (1000000000 : UInt64).toNat = nanosPerSec := rfl
    rw [UInt64.toNat_add, UInt64.toNat_mul, UInt64.toNat_mod, UInt32.toNat_toUInt64, UInt32.toNat_toUInt64,
      UInt32.toNat_mod, billion, Nat.mod_add_mod]
    exact Nat.mod_eq_of_lt (left.trans bound)
  have quotient_lt : nanosPerSec < 2 ^ 32 := by decide
  rw [toNanos_ofFields, UInt64.toNat_div, UInt32.toNat_add, UInt32.toNat_div, UInt64.toNat_toUInt32, UInt64.toNat_div,
    rest, UInt32.toNat_toUInt64, Nat.add_mod_mod, Nat.mod_eq_of_lt (nanos.trans quotient_lt), Nat.mod_eq_of_lt nanos,
    quotient, toNanos]

end Conformance.Span
