/-
The two percentile formulas.

Both sort the samples.  The metrics take the sample of rank `⌈n * 95/100⌉`, counted from
one, and the log store the one at `⌈(n - 1) * 95/100⌉`, counted from zero.  These are the
same place unless `n` is a multiple of twenty, where the log store is one place further on.
-/
import Mathlib.Tactic.Linarith
import RustyGate.Storage.Stats

namespace RustyGate

theorem ceil_ninetyFive (n : Nat) : ⌈(n : ℚ) * (95 / 100)⌉.toNat = n - n / 20 := by
  have hceil : ⌈(n : ℚ) * (95 / 100)⌉ = ((n - n / 20 : Nat) : ℤ) := by
    rw [Int.ceil_eq_iff]
    have hle : n / 20 ≤ n := Nat.div_le_self n 20
    have hlow : ((n / 20 : Nat) : ℚ) * 20 ≤ n := by exact_mod_cast Nat.div_mul_le_self n 20
    have hhigh : (n : ℚ) < ((n / 20 : Nat) : ℚ) * 20 + 20 := by
      exact_mod_cast (by omega : n < n / 20 * 20 + 20)
    rw [Int.cast_natCast, Nat.cast_sub hle]
    constructor <;> linarith
  rw [hceil, Int.toNat_natCast]

/-- The sample of the metrics. -/
theorem percentileLatency_ninetyFive {samples : List UInt64} (h : samples ≠ []) :
    percentileLatency samples (95 / 100) =
      (((sortedSamples samples).getD (samples.length - samples.length / 20 - 1) 0).toNat : ℚ) := by
  unfold percentileLatency
  rw [if_neg (by simpa using h), ceil_ninetyFive]

/-- The sample of the log store. -/
theorem storedPercentileLatency_ninetyFive {samples : List UInt64} (h : samples ≠ []) :
    storedPercentileLatency samples (95 / 100) =
      (((sortedSamples samples).getD
        (samples.length - 1 - (samples.length - 1) / 20) 0).toNat : ℚ) := by
  unfold storedPercentileLatency
  rw [if_neg (by simpa using h), ceil_ninetyFive]

/-- Among `20 * m` samples, the samples of rank `19 * m` and `19 * m + 1` are equal. -/
def Unambiguous (samples : List UInt64) : Prop :=
  ∀ m, 0 < m → samples.length = 20 * m →
    (sortedSamples samples).getD (19 * m - 1) 0 = (sortedSamples samples).getD (19 * m) 0

/-- A test with a few samples does not see the difference. -/
theorem unambiguous_of_length_lt {samples : List UInt64} (h : samples.length < 20) :
    Unambiguous samples := by
  intro m hm hlength
  omega

theorem percentileLatency_eq_iff (samples : List UInt64) :
    percentileLatency samples (95 / 100) = storedPercentileLatency samples (95 / 100) ↔
      Unambiguous samples := by
  by_cases hempty : samples = []
  · subst hempty
    refine ⟨fun _ m hm hlength => ?_, fun _ => rfl⟩
    rw [List.length_nil] at hlength
    omega
  have hpos : 0 < samples.length := List.length_pos_of_ne_nil hempty
  rw [percentileLatency_ninetyFive hempty, storedPercentileLatency_ninetyFive hempty, Nat.cast_inj,
    UInt64.toNat_inj]
  by_cases htwenty : 20 ∣ samples.length
  · obtain ⟨m, hm⟩ := htwenty
    have hmpos : 0 < m := by omega
    have hmetrics : samples.length - samples.length / 20 - 1 = 19 * m - 1 := by omega
    have hstored : samples.length - 1 - (samples.length - 1) / 20 = 19 * m := by omega
    rw [hmetrics, hstored]
    constructor
    · intro h m' _ hm'
      obtain rfl : m' = m := by omega
      exact h
    · intro h
      exact h m hmpos hm
  · have hsame : samples.length - samples.length / 20 - 1 =
        samples.length - 1 - (samples.length - 1) / 20 := by omega
    rw [hsame]
    refine ⟨fun _ m _ hm => ?_, fun _ => rfl⟩
    exact absurd (Dvd.intro m hm.symm) htwenty

end RustyGate
