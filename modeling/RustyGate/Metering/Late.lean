/-
Token buckets that are asked with old clock readings.

A caller that reads the clock before it waits for its turn asks with a time that has passed.
A reading that lies before the last one adds nothing, but the bucket takes it for the time of
its level, and the next question counts the time since then once more.  What this can cost is
bounded by the age of the readings: `Stretch.granted_le` has their sum beside the length of
the stretch.
-/
import RustyGate.Metering.Bucket

namespace Metering

variable {K : Type} [Field K] [LinearOrder K] {p : Params K} {s : Level K}
  {now begun clock lag granted : K}

namespace Level

/-- The tokens that are there at a reading of the clock. -/
def topped (p : Params K) (s : Level K) (now : K) : K :=
  min (s.tokens + max (now - s.stamp) 0 * p.rate) p.cap

/-- Ask for one token with a reading of the clock. -/
def draw (p : Params K) (s : Level K) (now : K) : Bool × Level K :=
  if 1 ≤ s.topped p now then (true, ⟨s.topped p now - 1, now⟩)
  else (false, ⟨s.topped p now, now⟩)

@[simp] theorem draw_stamp : (s.draw p now).2.stamp = now := by
  unfold draw
  split <;> rfl

/-- Two states with the same tokens at the reading answer alike and are the same
afterwards. -/
theorem draw_congr {s' : Level K} (h : s.topped p now = s'.topped p now) :
    s.draw p now = s'.draw p now := by
  unfold draw
  rw [h]

/-- What is granted and what is left are what was there. -/
theorem draw_balance (p : Params K) (s : Level K) (now : K) :
    (if (s.draw p now).1 = true then 1 else 0) + (s.draw p now).2.tokens = s.topped p now := by
  unfold draw
  by_cases h : 1 ≤ s.topped p now
  · rw [if_pos h, if_pos rfl]
    ring
  · rw [if_neg h]
    simp

variable [IsStrictOrderedRing K]

theorem topped_eq_filled (h : s.stamp ≤ now) : s.topped p now = s.filled p now := by
  rw [topped, max_eq_left (by linarith), filled]

/-- With a reading that is not old it makes no difference. -/
theorem draw_eq_take (h : s.stamp ≤ now) : s.draw p now = s.take p now := by
  rw [draw, topped_eq_filled h, take]

theorem topped_nonneg (hs : s.Sound p) (hrate : 0 ≤ p.rate) : 0 ≤ s.topped p now := by
  have hflow : 0 ≤ max (now - s.stamp) 0 * p.rate := mul_nonneg (le_max_right _ _) hrate
  have hcap : 0 ≤ p.cap := le_trans hs.nonneg hs.le_cap
  exact le_min (by linarith [hs.nonneg]) hcap

theorem Sound.draw (hs : s.Sound p) (hrate : 0 ≤ p.rate) : (s.draw p now).2.Sound p := by
  have hnonneg : 0 ≤ s.topped p now := topped_nonneg hs hrate
  have hcap : s.topped p now ≤ p.cap := min_le_right _ _
  unfold Level.draw
  by_cases h : 1 ≤ s.topped p now
  · rw [if_pos h]
    exact ⟨by show 0 ≤ s.topped p now - 1; linarith, by show s.topped p now - 1 ≤ p.cap; linarith⟩
  · rw [if_neg h]
    exact ⟨hnonneg, hcap⟩

/-- A full bucket is full at any reading. -/
theorem topped_full (hrate : 0 ≤ p.rate) (hfull : s.tokens = p.cap) : s.topped p now = p.cap := by
  have hflow : 0 ≤ max (now - s.stamp) 0 * p.rate := mul_nonneg (le_max_right _ _) hrate
  exact min_eq_right (by linarith)

end Level

/-- What has been granted since `begun`, in a bucket with the level `s` at the time `clock`.
`lag` is the sum of the ages that the readings had when they were used. -/
structure Stretch (p : Params K) (begun : K) (s : Level K) (clock lag granted : K) : Prop where
  sound : s.Sound p
  stamp_le : s.stamp ≤ clock
  begun_le : begun ≤ clock
  lag_nonneg : 0 ≤ lag
  /-- The level was at most full at the first question of the stretch. -/
  paid : granted = 0 ∨ granted + s.tokens ≤ p.cap + (s.stamp - begun + lag) * p.rate

namespace Stretch

theorem start (hs : s.Sound p) (hstamp : s.stamp ≤ begun) : Stretch p begun s begun 0 0 :=
  ⟨hs, hstamp, le_refl _, le_refl _, .inl rfl⟩

theorem tick (h : Stretch p begun s clock lag granted) {clock' : K} (hclock : clock ≤ clock') :
    Stretch p begun s clock' lag granted :=
  { h with stamp_le := le_trans h.stamp_le hclock, begun_le := le_trans h.begun_le hclock }

variable [IsStrictOrderedRing K]

/-- The time that a question counts lies between the level's own and the clock, as far as it
has not been paid by the age of a reading. -/
theorem draw (h : Stretch p begun s clock lag granted) (hrate : 0 ≤ p.rate) (hnow : now ≤ clock) :
    Stretch p begun (s.draw p now).2 clock (lag + (clock - now))
      (granted + if (s.draw p now).1 = true then 1 else 0) := by
  refine ⟨h.sound.draw hrate, ?_, h.begun_le, ?_, .inr ?_⟩
  · rw [Level.draw_stamp]
    exact hnow
  · linarith [h.lag_nonneg]
  · rw [Level.draw_stamp, add_assoc, Level.draw_balance]
    rcases h.paid with hnone | hpaid
    · have hcap : s.topped p now ≤ p.cap := min_le_right _ _
      have hflow : 0 ≤ (now - begun + (lag + (clock - now))) * p.rate :=
        mul_nonneg (by linarith [h.begun_le, h.lag_nonneg]) hrate
      linarith
    · have htopped : s.topped p now ≤ s.tokens + max (now - s.stamp) 0 * p.rate := min_le_left _ _
      have hage : max (now - s.stamp) 0 ≤ clock - s.stamp :=
        max_le (by linarith) (by linarith [h.stamp_le])
      have hflow := mul_le_mul_of_nonneg_right hage hrate
      linarith

/-- At most a full bucket and the flow through the stretch, with the ages of the readings. -/
theorem granted_le (h : Stretch p begun s clock lag granted) (hrate : 0 ≤ p.rate) :
    granted ≤ p.cap + (clock - begun + lag) * p.rate := by
  have hlag := h.lag_nonneg
  have hbegun := h.begun_le
  rcases h.paid with hnone | hpaid
  · have hcap : 0 ≤ p.cap := le_trans h.sound.nonneg h.sound.le_cap
    have hflow : 0 ≤ (clock - begun + lag) * p.rate := mul_nonneg (by linarith) hrate
    linarith
  · have hstamp : (s.stamp - begun + lag) * p.rate ≤ (clock - begun + lag) * p.rate :=
      mul_le_mul_of_nonneg_right (by linarith [h.stamp_le]) hrate
    linarith [h.sound.nonneg]

end Stretch
end Metering
