/-
The percentiles of the metrics (`percentile_latency` in `src/telemetry/metrics.rs`).

The rank `⌈n * percentile⌉` is counted from one.  Between zero and one, a percentile has a
rank from one to `n` (`rank_pos`, `rank_le_length`), so that the subtraction and the index stay
in range, and the sample there is the one of nearest rank: so many samples are no greater
than it, and fewer are less.
-/
import RustyGate.Collections.Sorting
import RustyGate.Telemetry.Snapshot
import Mathlib.Tactic.Linarith
import Mathlib.Tactic.NormNum

namespace RustyGate

/-- `⌈n * percentile⌉`, as a `usize`. -/
def rankOf (samples : List UInt64) (percentile : ℚ) : Nat :=
  ⌈(samples.length : ℚ) * percentile⌉.toNat

/-- The sample that is read.  Where the code would panic, because the rank is zero or because
there is no such place, there is none. -/
def percentileSample? (samples : List UInt64) (percentile : ℚ) : Option UInt64 :=
  match rankOf samples percentile with
  | 0 => none
  | percentileIndex + 1 => (sortedSamples samples)[percentileIndex]?

variable {samples : List UInt64} {percentile : ℚ}

/-! ## Ranks -/

theorem rank_pos (hsamples : samples ≠ []) (hpos : 0 < percentile) :
    0 < rankOf samples percentile := by
  have hlength : (0 : ℚ) < samples.length := by
    exact_mod_cast List.length_pos_of_ne_nil hsamples
  have hceil : 0 < ⌈(samples.length : ℚ) * percentile⌉ := Int.ceil_pos.mpr (mul_pos hlength hpos)
  unfold rankOf
  omega

theorem rank_le_length (hle : percentile ≤ 1) : rankOf samples percentile ≤ samples.length := by
  have hceil : ⌈(samples.length : ℚ) * percentile⌉ ≤ (samples.length : ℤ) := by
    rw [Int.ceil_le, Int.cast_natCast]
    exact mul_le_of_le_one_right (Nat.cast_nonneg _) hle
  unfold rankOf
  omega

/-! ## The sample at a rank -/

theorem byKey_samples :
    ByKey (fun left right : UInt64 => decide (left ≤ right)) UInt64.toNat := by
  intro left right
  rw [decide_eq_true_eq, UInt64.le_iff_toNat_le]

theorem length_sortedSamples (samples : List UInt64) :
    (sortedSamples samples).length = samples.length := List.length_mergeSort samples

theorem sortedSamples_perm (samples : List UInt64) : (sortedSamples samples).Perm samples :=
  List.mergeSort_perm samples _

/-- Samples in another order are sorted into the same list. -/
theorem sortedSamples_eq_of_perm {samples' : List UInt64} (h : samples'.Perm samples) :
    sortedSamples samples' = sortedSamples samples :=
  byKey_samples.mergeSort_eq_of_perm h fun _ _ _ _ => UInt64.toNat_inj.mp

/-- The sample is there, and the samples below it are fewer than its rank. -/
theorem exists_percentileSample (hsamples : samples ≠ []) (hpos : 0 < percentile)
    (hle : percentile ≤ 1) :
    ∃ sample ∈ samples, percentileSample? samples percentile = some sample ∧
      rankOf samples percentile ≤ samples.countP (fun other => decide (other ≤ sample)) ∧
      samples.countP (fun other => decide (other < sample)) < rankOf samples percentile := by
  have hrankPos := rank_pos hsamples hpos
  have hrankLe : rankOf samples percentile ≤ samples.length := rank_le_length hle
  obtain ⟨index, hindex⟩ := Nat.exists_eq_succ_of_ne_zero (Nat.ne_of_gt hrankPos)
  have hin : index < (sortedSamples samples).length := by
    rw [length_sortedSamples]
    omega
  have hsorted : (sortedSamples samples).Pairwise fun left right => left.toNat ≤ right.toNat :=
    byKey_samples.pairwise samples
  have hbelow := lt_countP_le hsorted hin
  have habove := countP_lt_le hsorted hin
  simp only [← UInt64.le_iff_toNat_le, ← UInt64.lt_iff_toNat_lt] at hbelow habove
  rw [(sortedSamples_perm samples).countP_eq] at hbelow habove
  refine ⟨(sortedSamples samples)[index], ?_, ?_, ?_, ?_⟩
  · exact (sortedSamples_perm samples).mem_iff.mp (List.getElem_mem hin)
  · unfold percentileSample?
    rw [hindex]
    exact List.getElem?_eq_getElem hin
  · omega
  · omega

/-- Where there is no panic, the result is the sample that was read. -/
theorem percentileLatency_of_sample {sample : UInt64}
    (h : percentileSample? samples percentile = some sample) :
    percentileLatency samples percentile = (sample.toNat : ℚ) := by
  unfold percentileSample? at h
  split at h
  · cases h
  · rename_i index hindex
    have hin : index < (sortedSamples samples).length := (List.getElem?_eq_some_iff.mp h).1
    have hnonempty : samples ≠ [] := by
      rintro rfl
      rw [length_sortedSamples] at hin
      exact absurd hin (Nat.not_lt_zero index)
    have hplace : ⌈(samples.length : ℚ) * percentile⌉.toNat - 1 = index := by
      have hrank : ⌈(samples.length : ℚ) * percentile⌉.toNat = index + 1 := hindex
      omega
    unfold percentileLatency
    rw [if_neg (by simpa using hnonempty)]
    simp only
    rw [hplace, List.getD_eq_getElem?_getD, h, Option.getD_some]

theorem percentileLatency_perm {samples' : List UInt64} (h : samples'.Perm samples) :
    percentileLatency samples' percentile = percentileLatency samples percentile := by
  have hempty : samples'.isEmpty = samples.isEmpty := by
    rw [Bool.eq_iff_iff, List.isEmpty_iff_length_eq_zero, List.isEmpty_iff_length_eq_zero,
      h.length_eq]
  unfold percentileLatency
  rw [sortedSamples_eq_of_perm h, h.length_eq, hempty]

/-! ## What a snapshot reads -/

namespace MetricsRegistry

/-- The samples and percentiles of a snapshot, for one provider. -/
def percentileReads (m : MetricsRegistry) (provider : String) : List (List UInt64 × ℚ) :=
  [(m.latencySamplesMs, 95 / 100), (m.streamDurationSamplesMs, 95 / 100),
    (m.providerLatencySamplesMs provider, 95 / 100), (m.providerTtftSamplesMs provider, 50 / 100),
    (m.providerTtftSamplesMs provider, 95 / 100)]

end MetricsRegistry

/-- A percentile of one or more samples is the sample of nearest rank, in whatever order they
are.  So a snapshot reads no place that is not there. -/
theorem percentileLatency_nearestRank :
    (∀ percentile : ℚ, percentile = 50 / 100 ∨ percentile = 95 / 100 →
      ∀ samples : List UInt64, samples ≠ [] →
        (∃ sample ∈ samples, percentileSample? samples percentile = some sample ∧
          percentileLatency samples percentile = (sample.toNat : ℚ) ∧
          ⌈percentile * (samples.length : ℚ)⌉.toNat ≤
            samples.countP (fun other => decide (other ≤ sample)) ∧
          samples.countP (fun other => decide (other < sample)) <
            ⌈percentile * (samples.length : ℚ)⌉.toNat) ∧
        ∀ samples', samples'.Perm samples →
          percentileLatency samples' percentile = percentileLatency samples percentile) ∧
      ∀ (m : MetricsRegistry) (provider : String), ∀ read ∈ m.percentileReads provider,
        read.1 = [] ∨ (percentileSample? read.1 read.2).isSome = true := by
  have hrange : ∀ percentile : ℚ, percentile = 50 / 100 ∨ percentile = 95 / 100 →
      0 < percentile ∧ percentile ≤ 1 := by
    rintro percentile (rfl | rfl) <;> norm_num
  constructor
  · intro percentile hpercentile samples hsamples
    obtain ⟨hpos, hle⟩ := hrange percentile hpercentile
    obtain ⟨sample, hmem, hsample, hbelow, habove⟩ := exists_percentileSample hsamples hpos hle
    rw [rankOf, mul_comm] at hbelow habove
    exact ⟨⟨sample, hmem, hsample, percentileLatency_of_sample hsample, hbelow, habove⟩,
      fun samples' hperm => percentileLatency_perm hperm⟩
  · intro m provider read hread
    have hpercentile : read.2 = 50 / 100 ∨ read.2 = 95 / 100 := by
      simp only [MetricsRegistry.percentileReads, List.mem_cons, List.not_mem_nil, or_false]
        at hread
      rcases hread with rfl | rfl | rfl | rfl | rfl <;> simp
    by_cases hempty : read.1 = []
    · exact .inl hempty
    · obtain ⟨hpos, hle⟩ := hrange read.2 hpercentile
      obtain ⟨sample, -, hsample, -⟩ := exists_percentileSample hempty hpos hle
      exact .inr (Option.isSome_of_eq_some hsample)

/-- Of twenty samples, the nineteenth is the percentile. -/
theorem percentileLatency_nearestRank_twenty :
    let samples := (List.range 20).map UInt64.ofNat
    ∃ sample ∈ samples, percentileLatency samples (95 / 100) = (sample.toNat : ℚ) ∧
      ⌈(95 / 100 : ℚ) * (samples.length : ℚ)⌉.toNat = 19 ∧
      19 ≤ samples.countP (fun other => decide (other ≤ sample)) := by
  intro samples
  have hrank : ⌈(95 / 100 : ℚ) * (samples.length : ℚ)⌉.toNat = 19 := by
    decide +kernel
  obtain ⟨sample, hmem, -, hlatency, hbelow, -⟩ :=
    (percentileLatency_nearestRank.1 (95 / 100) (.inr rfl) samples (by decide)).1
  rw [hrank] at hbelow
  exact ⟨sample, hmem, hlatency, hrank, hbelow⟩

end RustyGate
