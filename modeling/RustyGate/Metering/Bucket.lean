/-
Token buckets over an ordered field.

A bucket holds at most `cap` tokens and gains `rate` of them in a unit of time.  It is
filled up when it is asked, so its state is a level together with the time at which the
level was right.  A bucket without a history is full.

The bound of `accepted_le` is amortised: a granted token lowers the level by one, and the
level rises by at most `rate` in a unit of time, so the tokens granted since a moment are
paid by the level at that moment and by what has flowed in since.
-/
import Mathlib.Algebra.Order.Field.Basic
import Mathlib.Data.List.Chain
import Mathlib.Tactic.Linarith
import Mathlib.Tactic.Ring

namespace Metering

variable {K : Type} [Field K] [LinearOrder K]

@[ext]
structure Params (K : Type) where
  cap : K
  rate : K

structure Level (K : Type) where
  tokens : K
  stamp : K

namespace Level

/-- The tokens that are there at the time `now`. -/
def filled (p : Params K) (s : Level K) (now : K) : K :=
  min (s.tokens + (now - s.stamp) * p.rate) p.cap

/-- Ask for one token. -/
def take (p : Params K) (s : Level K) (now : K) : Bool × Level K :=
  if 1 ≤ s.filled p now then (true, ⟨s.filled p now - 1, now⟩)
  else (false, ⟨s.filled p now, now⟩)

def answers (p : Params K) : Level K → List K → List Bool
  | _, [] => []
  | s, now :: later => (s.take p now).1 :: answers p (s.take p now).2 later

/-- The tokens granted between `start` and `stop`, both included. -/
def accepted (p : Params K) (start stop : K) (s : Level K) (times : List K) : Nat :=
  (times.zip (s.answers p times)).countP fun asked =>
    asked.2 && decide (start ≤ asked.1 ∧ asked.1 ≤ stop)

/-- A level between empty and full. -/
structure Sound (p : Params K) (s : Level K) : Prop where
  nonneg : 0 ≤ s.tokens
  le_cap : s.tokens ≤ p.cap

variable {p : Params K} {s : Level K} {now start stop : K}

/-! ## One step -/

@[simp] theorem take_stamp : (s.take p now).2.stamp = now := by
  unfold take
  split <;> rfl

theorem filled_le_cap : s.filled p now ≤ p.cap := min_le_right _ _

theorem chain_take {times : List K} (hclock : (now :: times).IsChain (· ≤ ·)) :
    ((s.take p now).2.stamp :: times).IsChain (· ≤ ·) := by
  rw [take_stamp]
  exact hclock

theorem length_answers (p : Params K) (s : Level K) (times : List K) :
    (s.answers p times).length = times.length := by
  induction times generalizing s with
  | nil => rfl
  | cons now later ih => rw [answers, List.length_cons, List.length_cons, ih]

/-- An empty bucket grants a token after the time in which one flows in. -/
theorem answers_single_iff (hone : 1 ≤ p.cap) :
    answers p ⟨0, start⟩ [stop] = [true] ↔ 1 ≤ (stop - start) * p.rate := by
  have hfilled : 1 ≤ filled p ⟨0, start⟩ stop ↔ 1 ≤ (stop - start) * p.rate := by
    unfold filled
    rw [le_min_iff, zero_add]
    exact and_iff_left hone
  rw [answers, take, answers, ← hfilled]
  by_cases h : 1 ≤ filled p ⟨0, start⟩ stop <;> simp [h]

@[simp] theorem accepted_nil : accepted p start stop s [] = 0 := rfl

theorem accepted_cons (later : List K) :
    accepted p start stop s (now :: later) =
      (if (s.take p now).1 = true ∧ start ≤ now ∧ now ≤ stop then 1 else 0) +
        accepted p start stop (s.take p now).2 later := by
  rw [accepted, answers, List.zip_cons_cons, List.countP_cons, Nat.add_comm]
  simp [accepted]

theorem accepted_eq_zero {times : List K} (hlate : stop < s.stamp)
    (hclock : (s.stamp :: times).IsChain (· ≤ ·)) : accepted p start stop s times = 0 := by
  induction times generalizing s with
  | nil => rfl
  | cons now later ih =>
      obtain ⟨hnow, hlater⟩ := List.isChain_cons_cons.mp hclock
      have hout : stop < now := lt_of_lt_of_le hlate hnow
      have hrest : accepted p start stop (s.take p now).2 later = 0 :=
        ih (by rw [take_stamp]; exact hout) (chain_take hlater)
      rw [accepted_cons, hrest, if_neg (fun h => not_le.mpr hout h.2.2)]

/-- What is granted and what is left are what was there. -/
theorem take_balance (p : Params K) (s : Level K) (now : K) :
    (if (s.take p now).1 = true then 1 else 0) + (s.take p now).2.tokens = s.filled p now := by
  unfold take
  by_cases h : 1 ≤ s.filled p now
  · rw [if_pos h, if_pos rfl]
    ring
  · rw [if_neg h]
    simp

variable [IsStrictOrderedRing K]

/-- A full bucket is full at any later time. -/
theorem filled_full (hrate : 0 ≤ p.rate) (hfull : s.tokens = p.cap) (hnow : s.stamp ≤ now) :
    s.filled p now = p.cap := by
  have hflow : 0 ≤ (now - s.stamp) * p.rate := mul_nonneg (by linarith) hrate
  exact min_eq_right (by linarith)

/-- A token granted at `now` and the ones after it are paid by what is there at `now` and
the flow to the end of the window. -/
theorem accepted_cons_le {later : List K}
    (hrest : (accepted p start stop (s.take p now).2 later : K) ≤
      (s.take p now).2.tokens + (stop - now) * p.rate) :
    (accepted p start stop s (now :: later) : K) ≤ s.filled p now + (stop - now) * p.rate := by
  have hbalance := take_balance p s now
  have hgrant :
      ((if (s.take p now).1 = true ∧ start ≤ now ∧ now ≤ stop then 1 else 0 : Nat) : K) ≤
        if (s.take p now).1 = true then 1 else 0 := by
    by_cases hg : (s.take p now).1 = true
    · rw [if_pos hg]
      split <;> simp
    · rw [if_neg hg, if_neg (fun h => hg h.1), Nat.cast_zero]
  rw [accepted_cons, Nat.cast_add]
  linarith

section Sound

variable {times : List K} (hs : s.Sound p) (hrate : 0 ≤ p.rate)

include hs hrate

theorem filled_nonneg (hnow : s.stamp ≤ now) :
    0 ≤ s.filled p now := by
  have hflow : 0 ≤ (now - s.stamp) * p.rate := mul_nonneg (by linarith) hrate
  have hcap : 0 ≤ p.cap := le_trans hs.nonneg hs.le_cap
  exact le_min (by linarith [hs.nonneg]) hcap

theorem Sound.take (hnow : s.stamp ≤ now) :
    (s.take p now).2.Sound p := by
  have hnonneg := filled_nonneg hs hrate hnow
  have hcap : s.filled p now ≤ p.cap := filled_le_cap
  unfold Level.take
  by_cases h : 1 ≤ s.filled p now
  · rw [if_pos h]
    exact ⟨by show 0 ≤ s.filled p now - 1; linarith, by show s.filled p now - 1 ≤ p.cap; linarith⟩
  · rw [if_neg h]
    exact ⟨hnonneg, hcap⟩

/-! ## Runs -/

/-- Inside a window the tokens granted are paid by the level and the flow to its end. -/
theorem accepted_le_of_inside (hstop : s.stamp ≤ stop) (hclock : (s.stamp :: times).IsChain (· ≤ ·))
   :
    (accepted p start stop s times : K) ≤ s.tokens + (stop - s.stamp) * p.rate := by
  induction times generalizing s with
  | nil =>
      have hflow : 0 ≤ (stop - s.stamp) * p.rate := mul_nonneg (by linarith) hrate
      rw [accepted_nil, Nat.cast_zero]
      linarith [hs.nonneg]
  | cons now later ih =>
      obtain ⟨hnow, hlater⟩ := List.isChain_cons_cons.mp hclock
      by_cases hin : now ≤ stop
      · have hrest := ih (hs.take hrate hnow) (by rw [take_stamp]; exact hin) (chain_take hlater)
        rw [take_stamp] at hrest
        have hfilled : s.filled p now ≤ s.tokens + (now - s.stamp) * p.rate := min_le_left _ _
        have hcons := accepted_cons_le hrest
        have hsplit : (stop - s.stamp) * p.rate =
            (now - s.stamp) * p.rate + (stop - now) * p.rate := by ring
        linarith
      · have hflow : 0 ≤ (stop - s.stamp) * p.rate := mul_nonneg (by linarith) hrate
        have hzero : accepted p start stop (s.take p now).2 later = 0 :=
          accepted_eq_zero (by rw [take_stamp]; exact not_le.mp hin) (chain_take hlater)
        rw [accepted_cons, hzero, if_neg (fun h => hin h.2.2), Nat.add_zero, Nat.cast_zero]
        linarith [hs.nonneg]

/-- In any window, at most a full bucket and the flow through the window. -/
theorem accepted_le (hwindow : start ≤ stop) (hclock : (s.stamp :: times).IsChain (· ≤ ·)) :
    (accepted p start stop s times : K) ≤ p.cap + (stop - start) * p.rate := by
  have hcap : 0 ≤ p.cap := le_trans hs.nonneg hs.le_cap
  have hflow : 0 ≤ (stop - start) * p.rate := mul_nonneg (by linarith) hrate
  induction times generalizing s with
  | nil =>
      rw [accepted_nil, Nat.cast_zero]
      linarith
  | cons now later ih =>
      obtain ⟨hnow, hlater⟩ := List.isChain_cons_cons.mp hclock
      by_cases hbegun : start ≤ now
      · by_cases hin : now ≤ stop
        · -- The window has begun, and the level is at most `cap` when it does.
          have hrest : (accepted p start stop (s.take p now).2 later : K) ≤
              (s.take p now).2.tokens + (stop - (s.take p now).2.stamp) * p.rate :=
            accepted_le_of_inside (hs.take hrate hnow) hrate (by rw [take_stamp]; exact hin)
              (chain_take hlater)
          rw [take_stamp] at hrest
          have hcons := accepted_cons_le hrest
          have hfilled : s.filled p now ≤ p.cap := filled_le_cap
          have hless : (stop - now) * p.rate ≤ (stop - start) * p.rate :=
            mul_le_mul_of_nonneg_right (by linarith) hrate
          linarith
        · have hzero : accepted p start stop (s.take p now).2 later = 0 :=
            accepted_eq_zero (by rw [take_stamp]; exact not_le.mp hin) (chain_take hlater)
          rw [accepted_cons, hzero, if_neg (fun h => hin h.2.2), Nat.add_zero, Nat.cast_zero]
          linarith
      · rw [accepted_cons, if_neg (fun h => hbegun h.2.1), Nat.zero_add]
        exact ih (hs.take hrate hnow) (chain_take hlater)

end Sound

/-! ## Bursts -/

/-- As many questions at one time as there are whole tokens are all granted. -/
theorem answers_replicate {x : K} {n : Nat} (hcap : x ≤ p.cap) (hn : (n : K) ≤ x) (later : List K) :
    answers p ⟨x, now⟩ (List.replicate n now ++ later) =
      List.replicate n true ++ answers p ⟨x - n, now⟩ later := by
  induction n generalizing x with
  | zero => simp
  | succ n ih =>
      rw [Nat.cast_succ] at hn
      have hpos : (0 : K) ≤ n := Nat.cast_nonneg n
      have hfilled : filled p ⟨x, now⟩ now = x := by
        unfold filled
        rw [sub_self, zero_mul, add_zero]
        exact min_eq_left hcap
      have htake : take p ⟨x, now⟩ now = (true, ⟨x - 1, now⟩) := by
        unfold take
        rw [hfilled, if_pos (by linarith)]
      rw [List.replicate_succ, List.cons_append, answers, htake]
      rw [ih (by linarith) (by linarith), List.replicate_succ, List.cons_append, Nat.cast_succ]
      rw [show x - 1 - (n : K) = x - ((n : K) + 1) by ring]

/-- A burst that empties the bucket. -/
theorem answers_burst {n : Nat} (hcap : (n : K) ≤ p.cap) (later : List K) :
    answers p ⟨n, now⟩ (List.replicate n now ++ later) =
      List.replicate n true ++ answers p ⟨0, now⟩ later := by
  rw [answers_replicate hcap (le_refl _), sub_self]

/-- Questions at one time that are all granted. -/
theorem le_of_answers_replicate {n : Nat} (hs : s.Sound p) (hrate : 0 ≤ p.rate)
    (hstop : s.stamp ≤ stop) (hall : s.answers p (List.replicate n stop) = List.replicate n true) :
    (n : K) ≤ s.tokens + (stop - s.stamp) * p.rate := by
  have hclock : (s.stamp :: List.replicate n stop).IsChain (· ≤ ·) := by
    rw [List.isChain_iff_pairwise, List.pairwise_cons, List.pairwise_replicate]
    exact ⟨fun t ht => (List.eq_of_mem_replicate ht).symm ▸ hstop, .inr (le_refl _)⟩
  have hcount : accepted p stop stop s (List.replicate n stop) = n := by
    rw [accepted, hall, List.zip_replicate', List.countP_replicate]
    simp
  calc (n : K) = accepted p stop stop s (List.replicate n stop) := by rw [hcount]
    _ ≤ s.tokens + (stop - s.stamp) * p.rate := accepted_le_of_inside hs hrate hstop hclock

/-- A burst, and one more question when a token has flowed in. -/
theorem accepted_burst {n : Nat} (hcap : (n : K) ≤ p.cap) (hone : 1 ≤ p.cap)
    (hstop : start ≤ stop) (hflow : 1 ≤ (stop - start) * p.rate) :
    accepted p start stop ⟨n, start⟩ (List.replicate n start ++ [stop]) = n + 1 := by
  rw [accepted, answers_burst hcap, (answers_single_iff hone).mpr hflow,
    List.zip_append (by rw [List.length_replicate, List.length_replicate]),
    List.zip_replicate', List.countP_append, List.countP_replicate]
  simp [hstop]

end Level
end Metering
