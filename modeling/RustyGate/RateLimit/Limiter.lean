/-
The rate limiter (`src/rate_limit.rs`).

An instant is a number of nanoseconds and an `f64` a rational number.  The clock is read
where a check begins.  `Level` of the token buckets in `Metering` is what a bucket of the
source is an instance of (`TokenBucket.check_eq_take`).
-/
import RustyGate.Collections.Lru
import RustyGate.Config.Types
import RustyGate.Metering.Late
import Mathlib.Data.Rat.Floor

namespace RustyGate

/-- An instant in seconds. -/
def inSeconds (instant : Nat) : ℚ := (instant : ℚ) / 1000000000

/-- `now.duration_since(earlier).as_secs_f64()`, which is zero if `earlier` is later. -/
def secondsSince (earlier now : Nat) : ℚ := inSeconds (now - earlier)

/-- `Duration::from_secs_f64`: the nearest whole number of nanoseconds, and the even one of
two that are equally near. -/
def durationFromSecs (seconds : ℚ) : Nat :=
  let nanos := seconds * 1000000000
  let below := nanos.floor.toNat
  let rest := nanos - below
  if rest < 1 / 2 ∨ rest = 1 / 2 ∧ below % 2 = 0 then below else below + 1

/-- `Duration::as_secs`. -/
def asSecs (nanos : Nat) : Nat := nanos / 1000000000

def requestsPerMinuteToRefillRate (requestsPerMinute : UInt32) : ℚ :=
  (max requestsPerMinute.toNat 1 : Nat) / 60

structure TokenBucket where
  capacity : ℚ
  tokens : ℚ
  refillPerSecond : ℚ
  lastRefill : Nat
  deriving DecidableEq

namespace TokenBucket

def new (capacity refillPerSecond : ℚ) (now : Nat) : TokenBucket where
  capacity := max capacity 1
  tokens := max capacity 1
  refillPerSecond := max refillPerSecond (1 / 10)
  lastRefill := now

def refill (b : TokenBucket) (now : Nat) : TokenBucket :=
  { b with
    tokens := min (b.tokens + secondsSince b.lastRefill now * b.refillPerSecond) b.capacity
    lastRefill := now }

def waitDuration (b : TokenBucket) (now : Nat) : Option Nat × TokenBucket :=
  let b := b.refill now
  if 1 ≤ b.tokens then (none, b)
  else (some (durationFromSecs (max ((1 - b.tokens) / b.refillPerSecond) (1 / 1000))), b)

def consumeOne (b : TokenBucket) (now : Nat) : TokenBucket :=
  let b := b.refill now
  { b with tokens := max (b.tokens - 1) 0 }

/-- What both checks do with their bucket. -/
def check (b : TokenBucket) (now : Nat) : Except Nat Unit × TokenBucket :=
  match b.waitDuration now with
  | (some retryAfter, b) => (.error (max (asSecs retryAfter) 1), b)
  | (none, b) => (.ok (), b.consumeOne now)

end TokenBucket

def maxWait : Option Nat → Option Nat → Option Nat
  | some left, some right => some (max left right)
  | some left, none => some left
  | none, some right => some right
  | none, none => none

structure RateLimiter where
  globalBucket : TokenBucket
  perKeyBuckets : Lru String TokenBucket
  perKeyCapacity : ℚ
  perKeyRefillPerSecond : ℚ
  perKeyEvictions : Nat

namespace RateLimiter

/-- The number of tracked keys is positive in a configuration that has been validated, and
the source refuses to go on with any other. -/
def new (config : RateLimitConfig) (hkeys : 0 < config.maxTrackedKeys) (now : Nat) :
    RateLimiter where
  globalBucket := .new config.globalBurstSize.toNat
    (requestsPerMinuteToRefillRate config.globalRequestsPerMinute) now
  perKeyBuckets := .empty config.maxTrackedKeys hkeys
  perKeyCapacity := config.perKeyBurstSize.toNat
  perKeyRefillPerSecond := requestsPerMinuteToRefillRate config.perKeyRequestsPerMinute
  perKeyEvictions := 0

def checkGlobal (l : RateLimiter) (now : Nat) : Except Nat Unit × RateLimiter :=
  ((l.globalBucket.check now).1, { l with globalBucket := (l.globalBucket.check now).2 })

def checkKeyWithOverride (l : RateLimiter) (apiKey : String)
    (requestsPerMinute burstSize : Option UInt32) (now : Nat) :
    Except Nat Unit × RateLimiter :=
  let capacity := max ((burstSize.map fun b => (b.toNat : ℚ)).getD l.perKeyCapacity) 1
  let refillPerSecond :=
    (requestsPerMinute.map requestsPerMinuteToRefillRate).getD l.perKeyRefillPerSecond
  let evictions :=
    if !l.perKeyBuckets.contains apiKey && l.perKeyBuckets.len == l.perKeyBuckets.cap then
      min (l.perKeyEvictions + 1) (2 ^ 64 - 1)
    else l.perKeyEvictions
  let fresh := TokenBucket.new capacity refillPerSecond now
  let bucket := (l.perKeyBuckets.get? apiKey).getD fresh
  ((bucket.check now).1,
    { l with
      perKeyBuckets := l.perKeyBuckets.use apiKey fresh fun b => (b.check now).2
      perKeyEvictions := evictions })

/-- The check of a key and of all keys together: a token is taken from both buckets, or from
none. -/
def check (l : RateLimiter) (apiKey : String) (now : Nat) : Except Nat Unit × RateLimiter :=
  let evictions :=
    if !l.perKeyBuckets.contains apiKey && l.perKeyBuckets.len == l.perKeyBuckets.cap then
      min (l.perKeyEvictions + 1) (2 ^ 64 - 1)
    else l.perKeyEvictions
  let fresh := TokenBucket.new l.perKeyCapacity l.perKeyRefillPerSecond now
  let keyWait := (((l.perKeyBuckets.get? apiKey).getD fresh).waitDuration now).1
  let globalWait := (l.globalBucket.waitDuration now).1
  let l := { l with
    globalBucket := (l.globalBucket.waitDuration now).2
    perKeyBuckets := l.perKeyBuckets.use apiKey fresh fun b => (b.waitDuration now).2
    perKeyEvictions := evictions }
  match maxWait globalWait keyWait with
  | some retryAfter => (.error (max (asSecs retryAfter) 1), l)
  | none =>
      (.ok (),
        { l with
          globalBucket := l.globalBucket.consumeOne now
          perKeyBuckets := l.perKeyBuckets.use apiKey fresh fun b => b.consumeOne now })

end RateLimiter

/-! ## A bucket is a level -/

open Metering

theorem inSeconds_mono {m n : Nat} (h : m ≤ n) : inSeconds m ≤ inSeconds n := by
  unfold inSeconds
  have hcast : (m : ℚ) ≤ n := Nat.cast_le.mpr h
  linarith

/-- A clock that does not go back shows times that rise from every stamp it has passed. -/
theorem chain_inSeconds {clock : Nat} {times : List Nat} {stamp : ℚ}
    (hstamp : stamp ≤ inSeconds clock) (hclock : (clock :: times).IsChain (· ≤ ·)) :
    (stamp :: times.map inSeconds).IsChain (· ≤ ·) := by
  rw [List.isChain_iff_pairwise] at hclock ⊢
  obtain ⟨hfirst, hrest⟩ := List.pairwise_cons.mp hclock
  apply List.pairwise_cons.mpr
  constructor
  · intro t ht
    obtain ⟨now, hmem, rfl⟩ := List.mem_map.mp ht
    exact le_trans hstamp (inSeconds_mono (hfirst now hmem))
  · exact List.pairwise_map.mpr (hrest.imp inSeconds_mono)

theorem inSeconds_nonneg (n : Nat) : 0 ≤ inSeconds n := by
  unfold inSeconds
  positivity

theorem secondsSince_eq {earlier now : Nat} (h : earlier ≤ now) :
    secondsSince earlier now = inSeconds now - inSeconds earlier := by
  unfold secondsSince inSeconds
  rw [Nat.cast_sub h]
  ring

theorem secondsSince_of_le {earlier now : Nat} (h : now ≤ earlier) :
    secondsSince earlier now = 0 := by
  unfold secondsSince inSeconds
  rw [Nat.sub_eq_zero_of_le h, Nat.cast_zero, zero_div]

theorem secondsSince_eq_max (earlier now : Nat) :
    secondsSince earlier now = max (inSeconds now - inSeconds earlier) 0 := by
  rcases Nat.le_total earlier now with h | h
  · have hmono := inSeconds_mono h
    rw [secondsSince_eq h, max_eq_left (by linarith)]
  · have hmono := inSeconds_mono h
    rw [secondsSince_of_le h, max_eq_right (by linarith)]

namespace TokenBucket

def level (b : TokenBucket) : Level ℚ := ⟨b.tokens, inSeconds b.lastRefill⟩

/-- A bucket with the given capacity and rate, right at some time up to `clock`. -/
structure Fits (p : Params ℚ) (clock : Nat) (b : TokenBucket) : Prop where
  capacity_eq : b.capacity = p.cap
  rate_eq : b.refillPerSecond = p.rate
  sound : b.level.Sound p
  rate_nonneg : 0 ≤ p.rate
  lastRefill_le : b.lastRefill ≤ clock

variable {p : Params ℚ} {b : TokenBucket} {clock now : Nat}

theorem Fits.later (h : b.Fits p clock) (hnow : clock ≤ now) : b.Fits p now :=
  { h with lastRefill_le := le_trans h.lastRefill_le hnow }

theorem refill_tokens_eq_topped (h : b.Fits p clock) :
    (b.refill now).tokens = b.level.topped p (inSeconds now) := by
  unfold refill Level.topped level
  rw [secondsSince_eq_max, h.rate_eq, h.capacity_eq]

/-- The second refill of an accepted check finds no time gone by. -/
theorem refill_refill : (b.refill now).refill now = b.refill now := by
  unfold refill
  simp [secondsSince_of_le (le_refl now)]

theorem check_of_token (h : 1 ≤ (b.refill now).tokens) :
    b.check now = (.ok (), { b.refill now with tokens := (b.refill now).tokens - 1 }) := by
  have hwait : b.waitDuration now = (none, b.refill now) := if_pos h
  have hnonneg : 0 ≤ (b.refill now).tokens - 1 := by linarith
  unfold check
  rw [hwait]
  show (Except.ok (), (b.refill now).consumeOne now) = _
  unfold consumeOne
  rw [refill_refill]
  simp only [max_eq_left hnonneg]

theorem check_of_no_token (h : ¬1 ≤ (b.refill now).tokens) :
    ∃ retryAfter, b.check now = (.error retryAfter, b.refill now) := by
  have hwait : b.waitDuration now = (some _, b.refill now) := if_neg h
  unfold check
  rw [hwait]
  exact ⟨_, rfl⟩

/-- A check draws one token from the level, with a reading of the clock that may be old. -/
theorem check_eq_draw (h : b.Fits p clock) :
    (b.check now).1.isOk = (b.level.draw p (inSeconds now)).1 ∧
      (b.check now).2.level = (b.level.draw p (inSeconds now)).2 := by
  have htokens : (b.refill now).tokens = _ := refill_tokens_eq_topped h
  unfold Level.draw
  by_cases hone : 1 ≤ (b.refill now).tokens
  · rw [check_of_token hone, ← htokens, if_pos hone]
    exact ⟨rfl, rfl⟩
  · obtain ⟨retryAfter, hcheck⟩ := check_of_no_token hone
    rw [hcheck, ← htokens, if_neg hone]
    exact ⟨rfl, rfl⟩

/-- A check asks the level for one token. -/
theorem check_eq_take (h : b.Fits p now) :
    (b.check now).1.isOk = (b.level.take p (inSeconds now)).1 ∧
      (b.check now).2.level = (b.level.take p (inSeconds now)).2 := by
  rw [← Level.draw_eq_take (s := b.level) (inSeconds_mono h.lastRefill_le)]
  exact check_eq_draw h

theorem Fits.checkLate (h : b.Fits p clock) (hnow : now ≤ clock) :
    (b.check now).2.Fits p clock := by
  have hsound : (b.check now).2.level.Sound p := by
    rw [(check_eq_draw h).2]
    exact h.sound.draw h.rate_nonneg
  by_cases hone : 1 ≤ (b.refill now).tokens
  · rw [check_of_token hone] at hsound ⊢
    exact ⟨h.capacity_eq, h.rate_eq, hsound, h.rate_nonneg, hnow⟩
  · obtain ⟨retryAfter, hcheck⟩ := check_of_no_token hone
    rw [hcheck] at hsound ⊢
    exact ⟨h.capacity_eq, h.rate_eq, hsound, h.rate_nonneg, hnow⟩

theorem Fits.check (h : b.Fits p now) : (b.check now).2.Fits p now := h.checkLate (le_refl now)

/-- A fresh bucket is full. -/
theorem fits_new (capacity refillPerSecond : ℚ) (now : Nat) :
    (new capacity refillPerSecond now).Fits
      ⟨max capacity 1, max refillPerSecond (1 / 10)⟩ now := by
  have hcap : (0 : ℚ) ≤ max capacity 1 := le_trans zero_le_one (le_max_right _ _)
  have hrate : (0 : ℚ) ≤ max refillPerSecond (1 / 10) :=
    le_trans (by norm_num) (le_max_right _ _)
  exact ⟨rfl, rfl, ⟨hcap, le_refl _⟩, hrate, le_refl now⟩

end TokenBucket
end RustyGate
