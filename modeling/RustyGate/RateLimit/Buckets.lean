/-
Checks of one token bucket, one after another (`TokenBucket` in `src/rate_limit.rs`).

A bucket answers its checks as a level does (`Fits.answers_eq`), so the bounds of `Metering`
are bounds for the bucket.  The clock of the checks does not go back, but it may begin
before the bucket was made: no time has gone by then, and a bucket that is still full may
as well have been made at its first check (`check_new_early`).
-/
import RustyGate.RateLimit.Limiter

namespace RustyGate

open Metering

namespace TokenBucket

/-! ## Runs -/

/-- The bucket after checks at the given times. -/
def after (b : TokenBucket) (times : List Nat) : TokenBucket :=
  times.foldl (fun b now => (b.check now).2) b

/-- Which of the checks are accepted. -/
def answers : TokenBucket → List Nat → List Bool
  | _, [] => []
  | b, now :: later => (b.check now).1.isOk :: answers (b.check now).2 later

/-- The accepted checks from `start` to `stop`, in seconds. -/
def accepted (b : TokenBucket) (start stop : ℚ) (times : List Nat) : Nat :=
  (times.zip (b.answers times)).countP fun asked =>
    asked.2 && decide (start ≤ inSeconds asked.1 ∧ inSeconds asked.1 ≤ stop)

variable {p : Params ℚ} {b : TokenBucket} {clock now : Nat} {times : List Nat}

section Fits

variable (h : b.Fits p clock) (hclock : (clock :: times).IsChain (· ≤ ·))

include h hclock

theorem Fits.after :
    ∃ last, (b.after times).Fits p last := by
  induction times generalizing b clock with
  | nil => exact ⟨clock, h⟩
  | cons now later ih =>
      obtain ⟨hnow, hlater⟩ := List.isChain_cons_cons.mp hclock
      exact ih (h.later hnow).check hlater

theorem Fits.answers_eq :
    b.answers times = b.level.answers p (times.map inSeconds) := by
  induction times generalizing b clock with
  | nil => rfl
  | cons now later ih =>
      obtain ⟨hnow, hlater⟩ := List.isChain_cons_cons.mp hclock
      have hfits := h.later hnow
      obtain ⟨hanswer, hlevel⟩ := check_eq_take hfits
      rw [answers, List.map_cons, Level.answers, hanswer, ih hfits.check hlater, hlevel]

theorem Fits.accepted_eq (start stop : ℚ) :
    b.accepted start stop times = b.level.accepted p start stop (times.map inSeconds) := by
  rw [accepted, h.answers_eq hclock, Level.accepted, List.zip_map_left, List.countP_map]
  rfl

theorem Fits.accepted_le {start stop : ℚ} (hwindow : start ≤ stop) :
    (b.accepted start stop times : ℚ) ≤ p.cap + (stop - start) * p.rate := by
  have hseconds : (b.level.stamp :: times.map inSeconds).IsChain (· ≤ ·) :=
    chain_inSeconds (inSeconds_mono h.lastRefill_le) hclock
  rw [h.accepted_eq hclock]
  exact Level.accepted_le h.sound h.rate_nonneg hwindow hseconds

end Fits

/-! ## A bucket that is asked before it was made -/

variable (capacity refillPerSecond : ℚ)

theorem refill_new_early {created : Nat} (h : now ≤ created) :
    (new capacity refillPerSecond created).refill now = new capacity refillPerSecond now := by
  unfold refill new
  simp [secondsSince_of_le h]

/-- The first check makes no difference between a bucket made later and one made then. -/
theorem check_new_early {created : Nat} (h : now ≤ created) :
    (new capacity refillPerSecond created).check now =
      (new capacity refillPerSecond now).check now := by
  have hrefill : (new capacity refillPerSecond created).refill now =
      (new capacity refillPerSecond now).refill now := by
    rw [refill_new_early _ _ h, refill_new_early _ _ (le_refl now)]
  unfold check waitDuration
  rw [hrefill]

/-- The run of a new bucket is that of one which was made no later than its first check. -/
theorem exists_created_before (created : Nat) (hclock : times.IsChain (· ≤ ·)) :
    ∃ begun, (begun :: times).IsChain (· ≤ ·) ∧
      (new capacity refillPerSecond created).answers times =
        (new capacity refillPerSecond begun).answers times := by
  cases times with
  | nil => exact ⟨created, List.isChain_singleton _, rfl⟩
  | cons now later =>
      by_cases hearly : now ≤ created
      · refine ⟨now, List.isChain_cons_cons.mpr ⟨le_refl now, hclock⟩, ?_⟩
        rw [answers, answers, check_new_early _ _ hearly]
      · exact ⟨created, List.isChain_cons_cons.mpr ⟨le_of_not_ge hearly, hclock⟩, rfl⟩

theorem exists_fits_after_new (created : Nat) (hclock : times.IsChain (· ≤ ·)) :
    ∃ last, ((new capacity refillPerSecond created).after times).Fits
      ⟨max capacity 1, max refillPerSecond (1 / 10)⟩ last := by
  cases times with
  | nil => exact ⟨created, fits_new _ _ created⟩
  | cons now later =>
      have hfirst : ((new capacity refillPerSecond created).check now).2.Fits
          ⟨max capacity 1, max refillPerSecond (1 / 10)⟩ now := by
        by_cases hearly : now ≤ created
        · rw [check_new_early _ _ hearly]
          exact (fits_new _ _ now).check
        · exact ((fits_new _ _ created).later (le_of_not_ge hearly)).check
      exact hfirst.after hclock

/-! ## Bounds -/

theorem tokens_le_refill (h : b.Fits p clock) (now : Nat) :
    b.tokens ≤ (b.refill now).tokens := by
  have hcap : b.tokens ≤ b.capacity := by
    rw [h.capacity_eq]
    exact h.sound.le_cap
  have hflow : 0 ≤ secondsSince b.lastRefill now * b.refillPerSecond := by
    rw [h.rate_eq]
    exact mul_nonneg (inSeconds_nonneg _) h.rate_nonneg
  exact le_min (by linarith) hcap

/-- The tokens that are there at `now`: those at the last refill and what has come in since, up
to the capacity. -/
def available (b : TokenBucket) (now : Nat) : ℚ :=
  min b.capacity (b.tokens + max (inSeconds now - inSeconds b.lastRefill) 0 * b.refillPerSecond)

theorem refill_eq_available (b : TokenBucket) (now : Nat) :
    b.refill now = { b with tokens := b.available now, lastRefill := now } := by
  rw [refill, available, ← secondsSince_eq_max, min_comm]

/-- What a bucket promises for checks at the given times. -/
structure KeepsBound (b : TokenBucket) (times : List Nat) : Prop where
  tokens_nonneg : ∀ before, before <+: times → 0 ≤ (b.after before).tokens
  tokens_le_capacity : ∀ before, before <+: times → (b.after before).tokens ≤ b.capacity
  /-- The window is closed, and may begin and end at any time. -/
  accepted_le : ∀ start seconds : ℚ, 0 ≤ seconds →
    (b.accepted start (start + seconds) times : ℚ) ≤ b.capacity + seconds * b.refillPerSecond
  /-- A rejected check leaves what is there at its time. -/
  rejected_takes_none : ∀ before now, before ++ [now] <+: times →
    let b' := b.after before
    (b'.check now).1.isOk = false →
      (b'.check now).2 = { b' with tokens := b'.available now, lastRefill := now } ∧
        b'.tokens ≤ b'.available now
  rejected_iff : ∀ before now, before ++ [now] <+: times →
    (((b.after before).check now).1.isOk = false ↔ (b.after before).available now < 1)

theorem isOk_check_eq_false_iff (b : TokenBucket) (now : Nat) :
    (b.check now).1.isOk = false ↔ b.available now < 1 := by
  have htokens : (b.refill now).tokens = b.available now := by rw [refill_eq_available]
  rw [← htokens]
  by_cases hone : 1 ≤ (b.refill now).tokens
  · rw [check_of_token hone]
    exact iff_of_false Bool.noConfusion (not_lt.mpr hone)
  · obtain ⟨retryAfter, hcheck⟩ := check_of_no_token hone
    rw [hcheck]
    exact iff_of_true rfl (not_le.mp hone)

/-- Every bucket keeps its bound as long as the clock does not go back. -/
theorem new_keepsBound (created : Nat) (hclock : times.IsChain (· ≤ ·)) :
    (new capacity refillPerSecond created).KeepsBound times := by
  have hfits : ∀ before, before <+: times → ∃ last,
      ((new capacity refillPerSecond created).after before).Fits
        ⟨max capacity 1, max refillPerSecond (1 / 10)⟩ last :=
    fun before hbefore => exists_fits_after_new _ _ created (hclock.sublist hbefore.sublist)
  constructor
  case tokens_nonneg =>
    intro before hbefore
    obtain ⟨last, hlast⟩ := hfits before hbefore
    exact hlast.sound.nonneg
  case tokens_le_capacity =>
    intro before hbefore
    obtain ⟨last, hlast⟩ := hfits before hbefore
    exact hlast.sound.le_cap
  case accepted_le =>
    intro start seconds hseconds
    obtain ⟨begun, hbegun, hanswers⟩ :=
      exists_created_before capacity refillPerSecond created hclock
    have hle := (fits_new capacity refillPerSecond begun).accepted_le hbegun
      (show start ≤ start + seconds by linarith)
    rw [add_sub_cancel_left] at hle
    rw [accepted, hanswers]
    exact hle
  case rejected_takes_none =>
    intro before now hbefore b' hrejected
    obtain ⟨last, hlast⟩ := hfits before ((List.prefix_append before [now]).trans hbefore)
    have hle : b'.tokens ≤ b'.available now := by
      have hrefill := tokens_le_refill hlast now
      rwa [refill_eq_available] at hrefill
    have hfew : (b'.refill now).tokens < 1 := by
      rw [refill_eq_available]
      exact (isOk_check_eq_false_iff _ now).mp hrejected
    obtain ⟨retryAfter, hcheck⟩ := check_of_no_token (not_le.mpr hfew)
    rw [hcheck]
    exact ⟨refill_eq_available b' now, hle⟩
  case rejected_iff =>
    intro before now _
    exact isOk_check_eq_false_iff _ now

/-- Two checks of a bucket for one token, in the same second. -/
theorem new_keepsBound_twice :
    (new 1 1 0).answers [0, 500000000] = [true, false] ∧
      ((new 1 1 0).accepted 0 (0 + 1) [0, 500000000] : ℚ) ≤
        (new 1 1 0).capacity + 1 * (new 1 1 0).refillPerSecond := by
  have hbound : (new 1 1 0).KeepsBound [0, 500000000] := new_keepsBound 1 1 0 (by decide)
  exact ⟨by decide +kernel, hbound.accepted_le 0 1 (by norm_num)⟩

end TokenBucket
end RustyGate
