/-
The wait that a refused check announces (`src/rate_limit.rs`).

`as_secs` drops what is left of a second, so the announced wait can be shorter than the time
until the bucket has a token again.  It is long enough exactly if that time is at most a
second, or a whole number of seconds but for what `from_secs_f64` rounds away
(`le_announced_iff`).

What happens to the bucket in between is nothing, or it is forgotten to make room for other
keys and then made anew, and full (`after_bucket`).  The checks before and in between may be
of any kind and at any time.
-/
import RustyGate.RateLimit.Buckets
import RustyGate.RateLimit.Windows

namespace RustyGate

/-! ## Seconds -/

/-- `retry_after.as_secs().max(1)` for a wait of `seconds`, which is at least a
millisecond. -/
def announced (seconds : ℚ) : Nat :=
  max (asSecs (durationFromSecs (max seconds (1 / 1000)))) 1

/-- At most a second, or a whole number of seconds, up to the half nanosecond below it that
is rounded away. -/
def WholeWait (seconds : ℚ) : Prop :=
  seconds ≤ 1 ∨ ∃ n : Nat, (n : ℚ) - 1 / 2000000000 ≤ seconds ∧ seconds ≤ n

theorem toNat_floor {x : ℚ} (h : 0 ≤ x) :
    (x.floor.toNat : ℚ) ≤ x ∧ x < (x.floor.toNat : ℚ) + 1 := by
  have hfloor : 0 ≤ x.floor := Rat.le_floor_iff.mpr (by simpa using h)
  have hcast : (x.floor.toNat : ℚ) = (x.floor : ℚ) := by
    rw [← Int.cast_natCast, Int.toNat_of_nonneg hfloor]
  have habove := Rat.lt_floor_add_one x
  rw [hcast]
  push_cast at habove
  exact ⟨Rat.floor_le x, habove⟩

/-- The nearest number of nanoseconds is at most half of one away. -/
theorem durationFromSecs_le {seconds : ℚ} (h : 0 ≤ seconds) :
    (durationFromSecs seconds : ℚ) ≤ seconds * 1000000000 + 1 / 2 := by
  obtain ⟨hbelow, -⟩ := toNat_floor (show 0 ≤ seconds * 1000000000 by positivity)
  unfold durationFromSecs
  simp only
  split
  · linarith
  · rename_i hrest
    push Not at hrest
    rw [Nat.cast_add, Nat.cast_one]
    linarith [hrest.1]

/-- Half a nanosecond below a whole number of seconds is rounded up, as that number of
nanoseconds is even. -/
theorem le_durationFromSecs {seconds : ℚ} (hpos : 0 ≤ seconds) {n : Nat}
    (h : (n : ℚ) - 1 / 2000000000 ≤ seconds) : n * 1000000000 ≤ durationFromSecs seconds := by
  obtain ⟨hbelow, habove⟩ := toNat_floor (show 0 ≤ seconds * 1000000000 by positivity)
  unfold durationFromSecs
  simp only
  generalize (seconds * 1000000000).floor.toNat = below at hbelow habove
  have hnear : n * 1000000000 < below + 2 := by
    have hcast : (n : ℚ) * 1000000000 < below + 2 := by linarith
    exact_mod_cast hcast
  by_cases hless : n * 1000000000 ≤ below
  · split <;> omega
  · have hbelowEq : below + 1 = n * 1000000000 := by omega
    have hcast : (below : ℚ) + 1 = n * 1000000000 := by exact_mod_cast hbelowEq
    rw [if_neg]
    · omega
    · intro hdown
      rcases hdown with hrest | ⟨-, heven⟩
      · linarith
      · omega

theorem le_announced_iff (seconds : ℚ) : seconds ≤ announced seconds ↔ WholeWait seconds := by
  unfold WholeWait
  by_cases hone : seconds ≤ 1
  · have hle : (1 : ℚ) ≤ announced seconds := Nat.one_le_cast.mpr (Nat.le_max_right _ _)
    exact iff_of_true (le_trans hone hle) (.inl hone)
  · have hlong : 1 < seconds := not_le.mp hone
    have hmax : max seconds (1 / 1000) = seconds := max_eq_left (by linarith)
    have hpos : 0 ≤ seconds := by linarith
    rw [announced, hmax, or_iff_right hone]
    constructor
    · intro hle
      have hsecs : asSecs (durationFromSecs seconds) * 1000000000 ≤ durationFromSecs seconds :=
        Nat.div_mul_le_self _ _
      have hmore : 1 < max (asSecs (durationFromSecs seconds)) 1 := by
        exact_mod_cast lt_of_lt_of_le hlong hle
      rw [max_eq_left (by omega)] at hle
      have hnanos := durationFromSecs_le hpos
      have hcast : (asSecs (durationFromSecs seconds) : ℚ) * 1000000000 ≤
          durationFromSecs seconds := by exact_mod_cast hsecs
      exact ⟨_, by linarith, hle⟩
    · intro ⟨n, hlow, hhigh⟩
      have hsecs : n ≤ asSecs (durationFromSecs seconds) :=
        (Nat.le_div_iff_mul_le (by decide)).mpr (le_durationFromSecs hpos hlow)
      have hcast : (n : ℚ) ≤ (max (asSecs (durationFromSecs seconds)) 1 : Nat) := by
        exact_mod_cast le_trans hsecs (Nat.le_max_left _ _)
      linarith

/-! ## Buckets that fill up -/

namespace TokenBucket

/-- There is room for a token, and some time after it is taken there is one again. -/
structure Proper (b : TokenBucket) : Prop where
  one_le_capacity : 1 ≤ b.capacity
  rate_pos : 0 < b.refillPerSecond

variable {b : TokenBucket} {now later : Nat}

theorem proper_new (capacity refillPerSecond : ℚ) (now : Nat) :
    (new capacity refillPerSecond now).Proper :=
  ⟨le_max_right _ _, lt_of_lt_of_le (by norm_num) (le_max_right _ _)⟩

theorem Proper.waitDuration (h : b.Proper) : (b.waitDuration now).2.Proper := by
  unfold TokenBucket.waitDuration
  simp only
  split
  · exact ⟨h.one_le_capacity, h.rate_pos⟩
  · exact ⟨h.one_le_capacity, h.rate_pos⟩

theorem Proper.consumeOne (h : b.Proper) : (b.consumeOne now).Proper :=
  ⟨h.one_le_capacity, h.rate_pos⟩

theorem Proper.check (h : b.Proper) : (b.check now).2.Proper := by
  have hwait : (b.waitDuration now).2.Proper := h.waitDuration
  unfold TokenBucket.check
  generalize b.waitDuration now = waited at hwait
  obtain ⟨retryAfter, waited⟩ := waited
  cases retryAfter with
  | none => exact hwait.consumeOne
  | some retryAfter => exact hwait

/-- The seconds from `now` until the bucket has a token. -/
def secondsToToken (b : TokenBucket) (now : Nat) : ℚ :=
  (1 - (b.refill now).tokens) / b.refillPerSecond

theorem check_eq_ok_iff (b : TokenBucket) (now : Nat) :
    (b.check now).1 = .ok () ↔ 1 ≤ (b.refill now).tokens := by
  by_cases hone : 1 ≤ (b.refill now).tokens
  · rw [check_of_token hone]
    exact iff_of_true rfl hone
  · obtain ⟨retryAfter, hcheck⟩ := check_of_no_token hone
    rw [hcheck]
    exact iff_of_false nofun hone

/-- A refused check announces the time to the next token, and only fills the bucket up. -/
theorem check_eq_error {seconds : Nat} (h : (b.check now).1 = .error seconds) :
    seconds = announced (b.secondsToToken now) ∧ (b.check now).2 = b.refill now := by
  by_cases hone : 1 ≤ (b.refill now).tokens
  · rw [check_of_token hone] at h
    cases h
  · have hwait : b.waitDuration now =
        (some (durationFromSecs (max (b.secondsToToken now) (1 / 1000))), b.refill now) :=
      if_neg hone
    unfold check at h ⊢
    rw [hwait] at h ⊢
    cases h
    exact ⟨rfl, rfl⟩

/-- A bucket that nobody asks has its next token after that time. -/
theorem one_le_refill_iff (h : b.Proper) :
    1 ≤ ((b.refill now).refill later).tokens ↔
      b.secondsToToken now ≤ inSeconds (later - now) := by
  show 1 ≤ min ((b.refill now).tokens + inSeconds (later - now) * b.refillPerSecond) b.capacity ↔ _
  rw [le_min_iff, and_iff_left h.one_le_capacity, secondsToToken, div_le_iff₀ h.rate_pos,
    sub_le_iff_le_add']

theorem one_le_refill_new (capacity refillPerSecond : ℚ) (now : Nat) :
    1 ≤ ((new capacity refillPerSecond now).refill now).tokens := by
  rw [refill_new_early _ _ (le_refl now)]
  exact le_max_right _ _

end TokenBucket

/-! ## Calls of a limiter -/

/-- A call of the limiter: the check of one bucket, in which a key may bring its own limits,
or the check of a key and of all keys together. -/
inductive RateCall where
  | one (which : RateCheck) (rate : KeyRate)
  | both (apiKey : String)
  deriving DecidableEq, Repr

/-- The call asks the bucket. -/
def RateCall.touches : RateCall → RateCheck → Bool
  | one asked _, which => asked = which
  | both _, .global => true
  | both apiKey, .key name => apiKey = name

structure TimedCall where
  now : Nat
  call : RateCall
  deriving DecidableEq, Repr

namespace RateLimiter

/-- The check of one bucket. -/
def ask (l : RateLimiter) (which : RateCheck) (rate : KeyRate) (now : Nat) :
    Except Nat Unit × RateLimiter :=
  match which with
  | .global => l.checkGlobal now
  | .key name => l.checkKeyWithOverride name rate.requestsPerMinute rate.burstSize now

def serve (l : RateLimiter) (c : TimedCall) : Except Nat Unit × RateLimiter :=
  match c.call with
  | .one which rate => l.ask which rate c.now
  | .both apiKey => l.check apiKey c.now

/-- The limiter after some calls. -/
def after (l : RateLimiter) (calls : List TimedCall) : RateLimiter :=
  calls.foldl (fun l c => (l.serve c).2) l

/-- The bucket, if there is one. -/
def bucket? (l : RateLimiter) : RateCheck → Option TokenBucket
  | .global => some l.globalBucket
  | .key name => l.perKeyBuckets.get? name

/-- The bucket that a check asks, made for it if there is none. -/
def bucketAt (l : RateLimiter) (which : RateCheck) (rate : KeyRate) (now : Nat) : TokenBucket :=
  (l.bucket? which).getD (l.freshBucket rate now)

variable {l : RateLimiter} {which : RateCheck} {rate : KeyRate} {now : Nat}

theorem ask_fst : (l.ask which rate now).1 = ((l.bucketAt which rate now).check now).1 := by
  cases which <;> rfl

theorem bucket?_ask :
    (l.ask which rate now).2.bucket? which =
      some ((l.bucketAt which rate now).check now).2 := by
  cases which with
  | global => rfl
  | key name => exact Lru.get?_use_self

/-! ### Every bucket fills up -/

def Proper (l : RateLimiter) : Prop := ∀ which b, l.bucket? which = some b → b.Proper

theorem Proper.bucketAt (h : l.Proper) : (l.bucketAt which rate now).Proper := by
  unfold RateLimiter.bucketAt
  cases hbucket : l.bucket? which with
  | none => exact TokenBucket.proper_new _ _ now
  | some b => exact h which b hbucket

theorem proper_iff : l.Proper ↔ l.globalBucket.Proper ∧
    ∀ name b, l.perKeyBuckets.get? name = some b → b.Proper := by
  constructor
  · intro h
    exact ⟨h .global _ rfl, fun name b hb => h (.key name) b hb⟩
  · intro h which b hb
    cases which with
    | global => exact Option.some.inj hb ▸ h.1
    | key name => exact h.2 name b hb

theorem proper_new (config : RateLimitConfig) (hkeys : 0 < config.maxTrackedKeys) (now : Nat) :
    (new config hkeys now).Proper :=
  proper_iff.mpr ⟨TokenBucket.proper_new _ _ now, fun _ _ hb => nomatch hb⟩

theorem Proper.ask (h : l.Proper) : (l.ask which rate now).2.Proper := by
  obtain ⟨hglobal, hkeys⟩ := proper_iff.mp h
  cases which with
  | global => exact proper_iff.mpr ⟨hglobal.check, hkeys⟩
  | key name =>
      refine proper_iff.mpr ⟨hglobal, fun _ => ?_⟩
      exact Lru.forall_get?_use hkeys (TokenBucket.proper_new _ _ now) fun _ hb => hb.check

theorem Proper.check (h : l.Proper) (apiKey : String) : (l.check apiKey now).2.Proper := by
  obtain ⟨hglobal, hkeys⟩ := proper_iff.mp h
  have hwaited : ∀ name b, (l.perKeyBuckets.use apiKey
      (TokenBucket.new l.perKeyCapacity l.perKeyRefillPerSecond now)
      fun b => (b.waitDuration now).2).get? name = some b → b.Proper :=
    fun _ => Lru.forall_get?_use hkeys (TokenBucket.proper_new _ _ now) fun _ hb => hb.waitDuration
  unfold RateLimiter.check
  simp only
  split
  · exact proper_iff.mpr ⟨hglobal.waitDuration, hwaited⟩
  · refine proper_iff.mpr ⟨hglobal.waitDuration.consumeOne, fun _ => ?_⟩
    exact Lru.forall_get?_use hwaited (TokenBucket.proper_new _ _ now) fun _ hb => hb.consumeOne

theorem Proper.serve (h : l.Proper) (c : TimedCall) : (l.serve c).2.Proper := by
  unfold RateLimiter.serve
  cases c.call with
  | one which rate => exact h.ask
  | both apiKey => exact h.check apiKey

theorem Proper.after (h : l.Proper) (calls : List TimedCall) : (l.after calls).Proper := by
  induction calls generalizing l with
  | nil => exact h
  | cons c rest ih => exact ih (h.serve c)

/-! ### A bucket that is not asked -/

theorem get?_check_ne {name apiKey : String} (hname : name ≠ apiKey) :
    (l.check apiKey now).2.perKeyBuckets.get? name = l.perKeyBuckets.get? name ∨
      (l.check apiKey now).2.perKeyBuckets.get? name = none := by
  unfold RateLimiter.check
  simp only
  split
  · exact Lru.get?_use_ne_or hname
  · exact Lru.get?_use_ne_or_trans hname (Lru.get?_use_ne_or hname)

/-- The bucket is as it was, or it has made room for another one. -/
theorem bucket?_serve {c : TimedCall} (h : c.call.touches which = false) :
    (l.serve c).2.bucket? which = l.bucket? which ∨ (l.serve c).2.bucket? which = none := by
  unfold RateCall.touches at h
  unfold serve
  cases hcall : c.call with
  | one asked rate =>
      rw [hcall] at h
      have hasked : asked ≠ which := of_decide_eq_false h
      cases asked with
      | global =>
          cases which with
          | global => exact absurd rfl hasked
          | key name => exact .inl rfl
      | key other =>
          cases which with
          | global => exact .inl rfl
          | key name => exact Lru.get?_use_ne_or fun heq => hasked (congrArg RateCheck.key heq.symm)
  | both apiKey =>
      rw [hcall] at h
      cases which with
      | global => cases h
      | key name =>
          have hname : name ≠ apiKey := Ne.symm (of_decide_eq_false h)
          exact get?_check_ne hname

theorem bucket?_after {before : Option TokenBucket} {calls : List TimedCall}
    (hcalls : ∀ c ∈ calls, c.call.touches which = false)
    (h : l.bucket? which = before ∨ l.bucket? which = none) :
    (l.after calls).bucket? which = before ∨ (l.after calls).bucket? which = none := by
  induction calls generalizing l with
  | nil => exact h
  | cons c rest ih =>
      apply ih fun c' hc' => hcalls c' (List.mem_cons_of_mem c hc')
      rcases bucket?_serve (hcalls c List.mem_cons_self) with hsame | hgone
      · rw [hsame]
        exact h
      · exact .inr hgone

/-! ## The announced wait -/

/-- Whenever the wait announced at `now` is over, and whatever other buckets have been asked
for meanwhile, the check is accepted. -/
def HonestAfter (l : RateLimiter) (which : RateCheck) (rate : KeyRate) (now seconds : Nat) : Prop :=
  ∀ between : List TimedCall, (∀ c ∈ between, c.call.touches which = false) →
    ∀ later, now + seconds * 1000000000 ≤ later →
      ((l.after between).ask which rate later).1 = .ok ()

/-- The bucket has its token by then, or it is a new one and full. -/
theorem honestAfter_of_le (h : l.Proper) {seconds : Nat}
    (hrefused : (l.ask which rate now).1 = .error seconds)
    (hle : (l.bucketAt which rate now).secondsToToken now ≤ seconds) :
    HonestAfter (l.ask which rate now).2 which rate now seconds := by
  intro between hbetween later hlater
  rw [ask_fst] at hrefused
  have hleft : (l.ask which rate now).2.bucket? which =
      some ((l.bucketAt which rate now).refill now) := by
    rw [bucket?_ask, (TokenBucket.check_eq_error hrefused).2]
  rw [ask_fst, TokenBucket.check_eq_ok_iff]
  rcases bucket?_after hbetween (.inl hleft) with hsame | hgone
  · rw [bucketAt, hsame, Option.getD_some, TokenBucket.one_le_refill_iff h.bucketAt]
    have hseconds : (seconds : ℚ) ≤ inSeconds (later - now) := by
      have hcast : (seconds : ℚ) * 1000000000 ≤ (later - now : Nat) := by
        exact_mod_cast Nat.le_sub_of_add_le' hlater
      unfold inSeconds
      linarith
    exact le_trans hle hseconds
  · rw [bucketAt, hgone]
    exact TokenBucket.one_le_refill_new _ _ later

/-- Nothing else needs to happen for the check to come too early. -/
theorem le_of_honestAfter (h : l.Proper) {seconds : Nat}
    (hrefused : (l.ask which rate now).1 = .error seconds)
    (hhonest : HonestAfter (l.ask which rate now).2 which rate now seconds) :
    (l.bucketAt which rate now).secondsToToken now ≤ seconds := by
  have hok := hhonest [] (fun _ hc => nomatch hc) _ (le_refl _)
  rw [ask_fst] at hrefused
  have hleft : (l.ask which rate now).2.bucket? which =
      some ((l.bucketAt which rate now).refill now) := by
    rw [bucket?_ask, (TokenBucket.check_eq_error hrefused).2]
  rw [ask_fst, TokenBucket.check_eq_ok_iff] at hok
  have hbucket : ((l.ask which rate now).2.after []).bucketAt which rate
      (now + seconds * 1000000000) = (l.bucketAt which rate now).refill now := by
    rw [bucketAt, after, List.foldl_nil, hleft, Option.getD_some]
  rw [hbucket, TokenBucket.one_le_refill_iff h.bucketAt, Nat.add_sub_cancel_left] at hok
  have hseconds : inSeconds (seconds * 1000000000) = seconds := by
    unfold inSeconds
    push_cast
    ring
  rw [← hseconds]
  exact hok

end RateLimiter

variable {config : RateLimitConfig}

/-- The wait that a refused check announces, in any state that a limiter with a valid
configuration can reach, is long enough exactly if the time to the next token is at most a
second or a whole number of seconds. -/
theorem RateLimiter.retryAfter_honest_iff (h : validateRateLimitConfig config = [])
    (created : Nat) (calls : List TimedCall) (which : RateCheck) (rate : KeyRate)
    (now seconds : Nat)
    (hrefused : (((RateLimiter.new config (rateLimitConfig_valid h).2 created).after calls).ask
      which rate now).1 = .error seconds) :
    HonestAfter (((RateLimiter.new config (rateLimitConfig_valid h).2 created).after calls).ask
        which rate now).2 which rate now seconds ↔
      WholeWait ((((RateLimiter.new config (rateLimitConfig_valid h).2 created).after
        calls).bucketAt which rate now).secondsToToken now) := by
  have hproper := (proper_new config (rateLimitConfig_valid h).2 created).after calls
  have hseconds := (TokenBucket.check_eq_error (ask_fst.symm.trans hrefused)).1
  rw [← le_announced_iff, ← hseconds]
  constructor
  · exact le_of_honestAfter hproper hrefused
  · exact honestAfter_of_le hproper hrefused

/-- A limiter that has just accepted one request. -/
def usedUp (config : RateLimitConfig) (hkeys : 0 < config.maxTrackedKeys) : RateLimiter :=
  (RateLimiter.new config hkeys 0).after [⟨0, .one .global {}⟩]

def oneAtATime (globalRequestsPerMinute : UInt32) : RateLimitConfig :=
  { globalRequestsPerMinute := globalRequestsPerMinute, globalBurstSize := 1 }

/-- With sixty requests a minute, the announced second is the second it takes. -/
theorem RateLimiter.retryAfter_honest_sixty :
    ((usedUp (oneAtATime 60) (by decide)).ask .global {} 0).1 = .error 1 ∧
      HonestAfter ((usedUp (oneAtATime 60) (by decide)).ask .global {} 0).2 .global {} 0 1 := by
  have hrefused : ((usedUp (oneAtATime 60) (by decide)).ask .global {} 0).1 = .error 1 := by
    decide +kernel
  have hwhole : WholeWait
      (((usedUp (oneAtATime 60) (by decide)).bucketAt .global {} 0).secondsToToken 0) :=
    .inl (by decide +kernel)
  have hvalid : validateRateLimitConfig (oneAtATime 60) = [] := by decide
  exact ⟨hrefused, (retryAfter_honest_iff hvalid 0 [⟨0, .one .global {}⟩] .global {} 0 1
    hrefused).mpr hwhole⟩

/-- With forty requests a minute it takes a second and a half.  One second is announced, and
a check after it is refused. -/
theorem RateLimiter.retryAfter_too_early :
    validateRateLimitConfig (oneAtATime 40) = [] ∧
      ((usedUp (oneAtATime 40) (by decide)).ask .global {} 0).1 = .error 1 ∧
      (((usedUp (oneAtATime 40) (by decide)).ask .global {} 0).2.ask .global {} 1000000000).1 =
        .error 1 := by
  decide +kernel

end RustyGate
