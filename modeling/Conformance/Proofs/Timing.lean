import Conformance.Proofs.Span
import Conformance.Timing.Basic

/-!
# Response times and their summary

The samples of a kind are what was recorded of it, in order, and their summary is exact: `Describes` says what it
has to tell of the samples, and `summary_of_records` that it does so for every sequence of recordings, unless the
samples together are too long for a span.
-/

namespace Conformance

/-- What the summary tells of the samples: how many they are, their extremes, and their mean, rounded down. -/
structure TimingSummary.Describes (summary : TimingSummary) (spans : List Span) : Prop where
  count : summary.count = spans.length
  min_mem : summary.min ∈ spans
  min_le : ∀ span ∈ spans, summary.min.toNanos ≤ span.toNanos
  max_mem : summary.max ∈ spans
  le_max : ∀ span ∈ spans, span.toNanos ≤ summary.max.toNanos
  mean : summary.mean.toNanos = (spans.map Span.toNanos).sum / spans.length
  min_le_mean : summary.min.toNanos ≤ summary.mean.toNanos
  mean_le_max : summary.mean.toNanos ≤ summary.max.toNanos

namespace TimingStats

variable {stats stats' : TimingStats} {kind : RequestKind}

theorem samples_record (stats : TimingStats) (kind other : RequestKind) (elapsed : Span) :
    (stats.record other elapsed).samples kind =
      stats.samples kind ++ if other = kind then [elapsed] else [] := by
  cases kind <;> cases other <;> simp [record, samples, samples?]

/-- All that is recorded, one after the other. -/
def recordAll (stats : TimingStats) (calls : List (RequestKind × Span)) : TimingStats :=
  calls.foldl (fun stats call => stats.record call.1 call.2) stats

theorem samples_recordAll (stats : TimingStats) (calls : List (RequestKind × Span)) (kind : RequestKind) :
    (stats.recordAll calls).samples kind =
      stats.samples kind ++ (calls.filter fun call => call.1 = kind).map Prod.snd := by
  induction calls generalizing stats with
  | nil => simp [recordAll]
  | cons call calls ih =>
    rw [recordAll, List.foldl_cons]
    refine (ih _).trans ?_
    rw [samples_record, List.append_assoc, List.filter_cons]
    by_cases same : call.1 = kind
    · simp [same]
    · simp [same]

theorem total_eq (stats : TimingStats) :
    stats.total = (stats.samples .get).length + (stats.samples .set).length + (stats.samples .discovery).length := by
  rw [total, RequestKind.all, List.foldl_cons, List.foldl_cons, List.foldl_cons, List.foldl_nil, Nat.zero_add]

theorem total_recordAll (stats : TimingStats) (calls : List (RequestKind × Span)) :
    (stats.recordAll calls).total = stats.total + calls.length := by
  induction calls generalizing stats with
  | nil => rfl
  | cons call calls ih =>
    have one : (stats.record call.1 call.2).total = stats.total + 1 := by
      rw [total_eq, total_eq, samples_record, samples_record, samples_record]
      cases call.1 <;> simp <;> omega
    rw [recordAll, List.foldl_cons]
    refine (ih _).trans ?_
    rw [one, List.length_cons]
    omega

/-! ### Summaries -/

theorem summary_congr (same : stats.samples kind = stats'.samples kind) : stats.summary kind = stats'.summary kind := by
  unfold summary
  rw [same]

theorem summary_of_nil (held : stats.samples kind = []) : stats.summary kind = .ok none := by
  unfold summary
  rw [held]

variable {first total mean : Span} {rest : List Span}

theorem summary_of_overflow (held : stats.samples kind = first :: rest) (overflow : Span.sum? (first :: rest) = none) :
    stats.summary kind = .error .totalOverflow := by
  unfold summary
  simp only [held, overflow]

theorem summary_of_mean (held : stats.samples kind = first :: rest) (summed : Span.sum? (first :: rest) = some total)
    (averaged : total.divide? (UInt32.ofNat (first :: rest).length) = some mean) :
    stats.summary kind =
      .ok (some ⟨(first :: rest).length, rest.foldl Span.min first, rest.foldl Span.max first, mean⟩) := by
  unfold summary
  simp only [held, summed, averaged]

/-- The extremes bound the total, so the mean lies between them. -/
theorem describes (summed : total.toNanos = ((first :: rest).map Span.toNanos).sum)
    (averaged : mean.toNanos = total.toNanos / (first :: rest).length) :
    TimingSummary.Describes ⟨(first :: rest).length, rest.foldl Span.min first, rest.foldl Span.max first, mean⟩
      (first :: rest) := by
  obtain ⟨min_mem, min_le⟩ := Span.foldl_prefers (fun s t => s.toNanos ≤ t.toNanos) (fun s => Nat.le_refl s.toNanos)
    Nat.le_trans Span.min_keeps first rest
  obtain ⟨max_mem, le_max⟩ := Span.foldl_prefers (fun s t => t.toNanos ≤ s.toNanos) (fun s => Nat.le_refl s.toNanos)
    (fun above above' => Nat.le_trans above' above) Span.max_keeps first rest
  have least : (first :: rest).length * (rest.foldl Span.min first).toNanos ≤ total.toNanos := by
    rw [summed, ← List.length_map Span.toNanos, ← Nat.nsmul_eq_mul]
    refine List.card_nsmul_le_sum _ _ fun nanos member => ?_
    obtain ⟨span, held, rfl⟩ := List.mem_map.mp member
    exact min_le span held
  have greatest : total.toNanos ≤ (first :: rest).length * (rest.foldl Span.max first).toNanos := by
    rw [summed, ← List.length_map Span.toNanos, ← Nat.nsmul_eq_mul]
    refine List.sum_le_card_nsmul _ _ fun nanos member => ?_
    obtain ⟨span, held, rfl⟩ := List.mem_map.mp member
    exact le_max span held
  refine ⟨rfl, min_mem, min_le, max_mem, le_max, summed ▸ averaged, ?_, ?_⟩
  · rw [averaged]
    exact (Nat.le_div_iff_mul_le (Nat.succ_pos _)).mpr (Nat.mul_comm _ _ ▸ least)
  · rw [averaged]
    exact Nat.div_le_of_le_mul greatest

/-- With no more samples than 32 bits count there is a mean, so only the total can be missing. -/
theorem summary_of_samples {spans : List Span} (held : stats.samples kind = spans) (few : spans.length < 2 ^ 32) :
    (stats.summary kind = .ok none ↔ spans = []) ∧
      (∀ error, stats.summary kind = .error error ↔
        error = .totalOverflow ∧ 2 ^ 64 * nanosPerSec ≤ (spans.map Span.toNanos).sum) ∧
      (spans ≠ [] → (spans.map Span.toNanos).sum < 2 ^ 64 * nanosPerSec →
        ∃ summary, stats.summary kind = .ok (some summary) ∧ summary.Describes spans) := by
  cases spans with
  | nil =>
    rw [summary_of_nil held]
    simp [nanosPerSec]
  | cons first rest =>
    obtain ⟨overflows, fits⟩ := Span.sum?_spec (first :: rest)
    cases summed : Span.sum? (first :: rest) with
    | none =>
      have large := overflows.mp summed
      rw [summary_of_overflow held summed]
      refine ⟨by simp, fun error => ⟨?_, ?_⟩, fun _ small => absurd large (Nat.not_le.mpr small)⟩
      · rintro ⟨⟩
        exact ⟨rfl, large⟩
      · rintro ⟨rfl, -⟩
        rfl
    | some total =>
      have small : ¬ 2 ^ 64 * nanosPerSec ≤ ((first :: rest).map Span.toNanos).sum := by
        rw [← overflows, summed]
        exact Option.some_ne_none total
      have count : (UInt32.ofNat (first :: rest).length).toNat = (first :: rest).length :=
        UInt32.toNat_ofNat_of_lt' few
      cases averaged : total.divide? (UInt32.ofNat (first :: rest).length) with
      | none =>
        rw [Span.divide?_eq_none_iff.mp averaged] at count
        cases count
      | some mean =>
        have quotient := Span.toNanos_of_divide? averaged
        rw [count] at quotient
        rw [summary_of_mean held summed averaged]
        exact ⟨by simp, fun error => iff_of_false (by simp) fun overflow => small overflow.2,
          fun _ _ => ⟨_, rfl, describes (fits total summed) quotient⟩⟩

/--
After any recordings the samples of a kind are those that were recorded of it, in order. There is no summary of a
kind without samples, and one whose samples together are longer than any span overflows. Every other summary is
exact, for as many samples as 32 bits count. What is recorded of another kind leaves all of that as it is, and the
total counts every recording once.
-/
theorem summary_of_records (calls : List (RequestKind × Span)) (kind : RequestKind)
    (few : (calls.filter fun call => call.1 = kind).length < 2 ^ 32) :
    let stats := empty.recordAll calls
    let spans := (calls.filter fun call => call.1 = kind).map Prod.snd
    stats.samples kind = spans ∧
      (stats.summary kind = .ok none ↔ spans = []) ∧
      (∀ error, stats.summary kind = .error error ↔
        error = .totalOverflow ∧ 2 ^ 64 * nanosPerSec ≤ (spans.map Span.toNanos).sum) ∧
      (spans ≠ [] → (spans.map Span.toNanos).sum < 2 ^ 64 * nanosPerSec →
        ∃ summary, stats.summary kind = .ok (some summary) ∧ summary.Describes spans) ∧
      (∀ other elapsed, other ≠ kind → (stats.record other elapsed).samples kind = spans ∧
        (stats.record other elapsed).summary kind = stats.summary kind) ∧
      stats.total = (stats.samples .get).length + (stats.samples .set).length + (stats.samples .discovery).length ∧
      stats.total = calls.length := by
  intro stats spans
  have unrecorded : empty.samples kind = [] := by cases kind <;> rfl
  have held : stats.samples kind = spans := by
    rw [← List.nil_append spans, ← unrecorded]
    exact samples_recordAll empty calls kind
  obtain ⟨nothing, overflows, describes⟩ := summary_of_samples held (by rwa [List.length_map])
  refine ⟨held, nothing, overflows, describes, fun other elapsed unlike => ?_, total_eq stats, ?_⟩
  · have same : (stats.record other elapsed).samples kind = stats.samples kind := by
      rw [samples_record, if_neg unlike, List.append_nil]
    exact ⟨same.trans held, summary_congr same⟩
  · exact (total_recordAll empty calls).trans (Nat.zero_add _)

/-- A mean of one second and a half, out of nanoseconds that do not divide. -/
theorem summary_of_records_rounded :
    let calls : List (RequestKind × Span) :=
      [(.get, .ofNanos 1000000000), (.set, .ofNanos 5), (.get, .ofNanos 2000000001)]
    (calls.filter fun call => call.1 = .get).length < 2 ^ 32 ∧
      ∃ summary, (empty.recordAll calls).summary .get = .ok (some summary) ∧ summary.count = 2 ∧
        summary.mean.toNanos = 1500000000 := by
  intro calls
  have few : (calls.filter fun call => call.1 = .get).length < 2 ^ 32 := by decide
  obtain ⟨-, -, -, describes, -⟩ := summary_of_records calls .get few
  obtain ⟨summary, found, described⟩ := describes (by decide) (by decide)
  exact ⟨few, summary, found, described.count.trans (by decide), described.mean.trans (by decide)⟩

end TimingStats

end Conformance
