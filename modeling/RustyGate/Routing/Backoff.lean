/-
The back-off between retries on machine words (`retry_backoff` and `deterministic_jitter_ms`
of `src/routing/fallback.rs`).

The definitions here follow the operations of the code one by one.  A step that would overflow
or divide by zero has no result.  For a policy whose fields are integers of the configuration
file every step has one, and it is the number that the model of the retry loop waits
(`retryBackoff?_toNat`).
-/
import RustyGate.Arith.Word
import RustyGate.Routing.Fallback

namespace RustyGate

/-- The fields in milliseconds are integers of the configuration file, which has signed ones. -/
def RetryPolicy.FitsToml (policy : RetryPolicy) : Prop :=
  policy.initialBackoffMs.toNat ≤ 2 ^ 63 - 1 ∧ policy.maxBackoffMs.toNat ≤ 2 ^ 63 - 1 ∧
    policy.jitterMs.toNat ≤ 2 ^ 63 - 1

def nameByteSum (providerName : String) : UInt64 :=
  providerName.toUTF8.toList.foldl (fun acc value => Word.saturatingAdd acc value.toUInt64) 0

/-- The jitter, unless a step of its computation faults. -/
def deterministicJitterMs? (providerName : String) (retryAttempt : UInt32) (jitterMs : UInt64) :
    Option UInt64 :=
  if jitterMs = 0 then some 0
  else do
    let attemptShare ← Word.checkedMul retryAttempt.toUInt64 17
    let modulus ← Word.checkedAdd jitterMs 1
    Word.checkedRem (Word.saturatingAdd (nameByteSum providerName) attemptShare) modulus

/-- The back-off before jitter.  The subtraction from the number of the retry saturates. -/
def cappedBackoff (policy : RetryPolicy) (retryAttempt : UInt32) : UInt64 :=
  let base := Word.saturatingMul policy.initialBackoffMs
    (Word.saturatingPow 2 (retryAttempt.toNat - 1))
  min base (max policy.maxBackoffMs policy.initialBackoffMs)

/-- The back-off, unless a step of its computation faults. -/
def retryBackoff? (policy : RetryPolicy) (retryAttempt : UInt32) (providerName : String) :
    Option UInt64 := do
  let jitter ← deterministicJitterMs? providerName retryAttempt policy.jitterMs
  return Word.saturatingAdd (cappedBackoff policy retryAttempt) jitter

variable {policy : RetryPolicy} {retryAttempt : UInt32} {providerName : String}

/-! ## The part before jitter -/

/-- Nothing is lost by saturating: the cap is a word. -/
theorem toNat_cappedBackoff (policy : RetryPolicy) (retryAttempt : UInt32) :
    (cappedBackoff policy retryAttempt).toNat =
      min (policy.initialBackoffMs.toNat * 2 ^ (retryAttempt.toNat - 1))
        (max policy.maxBackoffMs.toNat policy.initialBackoffMs.toNat) := by
  have hcap := Word.toNat_le_greatest (max policy.maxBackoffMs policy.initialBackoffMs)
  rw [Word.toNat_max] at hcap
  have htwo : (2 : UInt64).toNat = 2 := rfl
  unfold cappedBackoff
  rw [Word.toNat_min, Word.toNat_max, Word.toNat_saturatingMul_pow, htwo, min_assoc,
    min_eq_right hcap]

theorem initialBackoff_le_cappedBackoff (policy : RetryPolicy) (retryAttempt : UInt32) :
    policy.initialBackoffMs ≤ cappedBackoff policy retryAttempt := by
  rw [UInt64.le_iff_toNat_le, toNat_cappedBackoff]
  exact le_min (Nat.le_mul_of_pos_right _ (Nat.two_pow_pos _)) (le_max_right _ _)

theorem cappedBackoff_mono (policy : RetryPolicy) {earlier later : UInt32} (h : earlier ≤ later) :
    cappedBackoff policy earlier ≤ cappedBackoff policy later := by
  have hexponent : earlier.toNat - 1 ≤ later.toNat - 1 :=
    Nat.sub_le_sub_right (UInt32.le_iff_toNat_le.mp h) 1
  rw [UInt64.le_iff_toNat_le, toNat_cappedBackoff, toNat_cappedBackoff]
  apply min_le_min_right
  exact Nat.mul_le_mul_left _ (Nat.pow_le_pow_right Nat.two_pos hexponent)

/-! ## Jitter -/

theorem toNat_nameByteSum (providerName : String) :
    (nameByteSum providerName).toNat =
      min (providerName.toUTF8.toList.map UInt8.toNat).sum Word.greatest := by
  unfold nameByteSum
  rw [Word.toNat_foldl_saturatingAdd]
  simp

/-- The number of a retry is a word of 32 bits, so its multiple by 17 is one of 64. -/
theorem attemptShare_le (retryAttempt : UInt32) :
    retryAttempt.toUInt64.toNat * (17 : UInt64).toNat ≤ Word.greatest := by
  have hattempt := retryAttempt.toNat_lt
  have hseventeen : (17 : UInt64).toNat = 17 := rfl
  rw [UInt32.toNat_toUInt64, hseventeen]
  unfold Word.greatest
  omega

theorem exists_deterministicJitterMs {jitterMs : UInt64} (hfits : jitterMs.toNat ≤ 2 ^ 63 - 1)
    (providerName : String) (retryAttempt : UInt32) :
    ∃ jitter, deterministicJitterMs? providerName retryAttempt jitterMs = some jitter ∧
      jitter.toNat = deterministicJitterMs providerName retryAttempt.toNat jitterMs.toNat ∧
      jitter ≤ jitterMs := by
  unfold deterministicJitterMs? deterministicJitterMs
  by_cases hzero : jitterMs = 0
  · subst hzero
    exact ⟨0, rfl, rfl, UInt64.le_refl 0⟩
  have hpos : jitterMs.toNat ≠ 0 := fun h => hzero (UInt64.toNat.inj h)
  obtain ⟨attemptShare, hshare, hshareNat⟩ := Word.checkedMul_of_le (attemptShare_le retryAttempt)
  have hmodulusFits : jitterMs.toNat + (1 : UInt64).toNat ≤ Word.greatest := by
    have hone : (1 : UInt64).toNat = 1 := rfl
    unfold Word.greatest
    omega
  obtain ⟨modulus, hmodulus, hmodulusNat⟩ := Word.checkedAdd_of_le hmodulusFits
  have hmodulusEq : modulus.toNat = jitterMs.toNat + 1 := hmodulusNat
  obtain ⟨jitter, hrem, hjitterNat⟩ := Word.checkedRem_of_pos
    (a := Word.saturatingAdd (nameByteSum providerName) attemptShare) (b := modulus) (by omega)
  refine ⟨jitter, ?_, ?_, ?_⟩
  · rw [if_neg hzero, hshare, hmodulus]
    exact hrem
  · have hseventeen : (17 : UInt64).toNat = 17 := rfl
    rw [UInt32.toNat_toUInt64, hseventeen] at hshareNat
    rw [if_neg hpos, hjitterNat, hmodulusEq, Word.toNat_saturatingAdd, toNat_nameByteSum,
      hshareNat]
    rfl
  · have hlt : jitter.toNat < jitterMs.toNat + 1 := by
      rw [hjitterNat, hmodulusEq]
      exact Nat.mod_lt _ (Nat.succ_pos _)
    exact UInt64.le_iff_toNat_le.mpr (Nat.le_of_lt_succ hlt)

/-! ## The back-off -/

theorem retryBackoff?_of_jitter {jitter : UInt64}
    (h : deterministicJitterMs? providerName retryAttempt policy.jitterMs = some jitter) :
    retryBackoff? policy retryAttempt providerName =
      some (Word.saturatingAdd (cappedBackoff policy retryAttempt) jitter) := by
  unfold retryBackoff?
  rw [h]
  rfl

/-- The wait of the retry loop is the result on words. -/
theorem retryBackoff?_toNat (hfits : policy.FitsToml) (retryAttempt : UInt32)
    (providerName : String) :
    (retryBackoff? policy retryAttempt providerName).map UInt64.toNat =
      some (retryBackoff policy retryAttempt.toNat providerName) := by
  obtain ⟨jitter, hjitter, hnat, -⟩ :=
    exists_deterministicJitterMs hfits.2.2 providerName retryAttempt
  have hbase : min (policy.initialBackoffMs.toNat *
      min (2 ^ (retryAttempt.toNat - 1)) (2 ^ 64 - 1)) (2 ^ 64 - 1) =
      min (policy.initialBackoffMs.toNat * 2 ^ (retryAttempt.toNat - 1)) Word.greatest :=
    Word.min_mul_min _ _ _
  have hcap := Word.toNat_le_greatest (max policy.maxBackoffMs policy.initialBackoffMs)
  rw [retryBackoff?_of_jitter hjitter, Option.map_some, Word.toNat_saturatingAdd, hnat,
    toNat_cappedBackoff]
  unfold retryBackoff
  simp only [hbase]
  rw [min_assoc, min_eq_right hcap, Word.toNat_max]
  rfl

/-- The back-off has a result, between the initial back-off and the cap with the whole jitter.
What is added to the jitter is the doubled initial back-off up to the cap, and so it does not
fall from one retry to a later one. -/
theorem retryBackoff_bounded (policy : RetryPolicy) (hfits : policy.FitsToml)
    (providerName : String) (retryAttempt : UInt32) :
    ∃ jitter backoff,
      deterministicJitterMs? providerName retryAttempt policy.jitterMs = some jitter ∧
      retryBackoff? policy retryAttempt providerName = some backoff ∧
      backoff = Word.saturatingAdd (cappedBackoff policy retryAttempt) jitter ∧
      policy.initialBackoffMs ≤ backoff ∧
      backoff.toNat ≤
        min (max policy.maxBackoffMs.toNat policy.initialBackoffMs.toNat + policy.jitterMs.toNat)
          (2 ^ 64 - 1) ∧
      (cappedBackoff policy retryAttempt).toNat =
        min (policy.initialBackoffMs.toNat * 2 ^ (retryAttempt.toNat - 1))
          (max policy.maxBackoffMs.toNat policy.initialBackoffMs.toNat) ∧
      ∀ later, retryAttempt ≤ later →
        cappedBackoff policy retryAttempt ≤ cappedBackoff policy later := by
  obtain ⟨jitter, hjitter, -, hle⟩ :=
    exists_deterministicJitterMs hfits.2.2 providerName retryAttempt
  have hcapped := toNat_cappedBackoff policy retryAttempt
  refine ⟨jitter, _, hjitter, retryBackoff?_of_jitter hjitter, rfl, ?_, ?_, hcapped, ?_⟩
  · exact UInt64.le_trans (initialBackoff_le_cappedBackoff policy retryAttempt)
      (Word.le_saturatingAdd_left _ _)
  · rw [Word.toNat_saturatingAdd, hcapped]
    apply min_le_min_right
    exact Nat.add_le_add (min_le_right _ _) (UInt64.le_iff_toNat_le.mp hle)
  · intro later hlater
    exact cappedBackoff_mono policy hlater

theorem retryBackoff_bounded_default :
    ∃ jitter backoff,
      deterministicJitterMs? "openai" 70 50 = some jitter ∧
      retryBackoff? {} 70 "openai" = some backoff ∧
      backoff = Word.saturatingAdd (cappedBackoff {} 70) jitter ∧
      100 ≤ backoff ∧ backoff.toNat ≤ 2050 ∧ (cappedBackoff {} 70).toNat = 2000 := by
  obtain ⟨jitter, backoff, hjitter, hbackoff, heq, hlow, hhigh, hcapped, -⟩ :=
    retryBackoff_bounded {} ⟨by decide, by decide, by decide⟩ "openai" 70
  exact ⟨jitter, backoff, hjitter, hbackoff, heq, hlow, hhigh, hcapped⟩

end RustyGate
