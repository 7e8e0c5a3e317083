/-
The rate limiter that keeps its buckets in Redis (`redis_backend` in `src/rate_limit.rs`).

The hash of one bucket is modelled, with what its script reads and writes; the connection
and the local limiter that takes over when it fails are not.  Redis removes a hash when the
time of its `PEXPIRE` has passed.  The script then finds a full bucket, and so does the
local limiter if it has had the time to fill up (`agreesWithRedis_iff`).
-/
import RustyGate.RateLimit.Windows

namespace RustyGate

open Metering

structure RedisBucket where
  tokens : ℚ
  ts : Nat
  expiresAt : Nat
  deriving DecidableEq

/-- What Redis still has of a hash. -/
def redisGet (stored : Option RedisBucket) (nowMs : Nat) : Option RedisBucket :=
  stored.filter fun b => nowMs ≤ b.expiresAt

theorem redisGet_live {b : RedisBucket} {nowMs : Nat} (h : nowMs ≤ b.expiresAt) :
    redisGet (some b) nowMs = some b := by
  rw [redisGet, Option.filter_some, if_pos (decide_eq_true h)]

theorem redisGet_expired {b : RedisBucket} {nowMs : Nat} (h : b.expiresAt < nowMs) :
    redisGet (some b) nowMs = none := by
  rw [redisGet, Option.filter_some, decide_eq_false (not_le.mpr h)]
  rfl

/-- The tokens that the script counts. -/
def redisTokens (stored : Option RedisBucket) (nowMs : Nat) (capacity refillPerMs : ℚ) : ℚ :=
  let bucket := redisGet stored nowMs
  let tokens := (bucket.map RedisBucket.tokens).getD capacity
  let last := (bucket.map RedisBucket.ts).getD nowMs
  let refill := ((nowMs : ℚ) - last) * refillPerMs
  min capacity (tokens + refill)

/-- `REDIS_TOKEN_BUCKET_SCRIPT`, which returns the milliseconds to wait. -/
def redisTokenBucketScript (stored : Option RedisBucket) (nowMs : Nat)
    (capacity refillPerMs : ℚ) (ttlMs : Nat) : Int × RedisBucket :=
  let tokens := redisTokens stored nowMs capacity refillPerMs
  if tokens < 1 then (⌈(1 - tokens) / refillPerMs⌉, ⟨tokens, nowMs, nowMs + ttlMs⟩)
  else (0, ⟨tokens - 1, nowMs, nowMs + ttlMs⟩)

structure RedisRateLimitBackend where
  globalCapacity : UInt32
  globalRefillPerMs : ℚ
  perKeyCapacity : UInt32
  perKeyRefillPerMs : ℚ

namespace RedisRateLimitBackend

def connect (config : RateLimitConfig) : RedisRateLimitBackend where
  globalCapacity := config.globalBurstSize
  globalRefillPerMs := requestsPerMinuteToRefillRate config.globalRequestsPerMinute / 1000
  perKeyCapacity := config.perKeyBurstSize
  perKeyRefillPerMs := requestsPerMinuteToRefillRate config.perKeyRequestsPerMinute / 1000

/-- What the number that the script returns means. -/
def waitResult (retryAfterMs : Int) : Except Nat Unit :=
  if retryAfterMs ≤ 0 then .ok () else .error (max (retryAfterMs.toNat / 1000) 1)

def ttlMs : Nat := 120000

def checkBucket (stored : Option RedisBucket) (capacity : UInt32) (refillPerMs : ℚ)
    (nowMs : Nat) : Except Nat Unit × RedisBucket :=
  Prod.map waitResult id
    (redisTokenBucketScript stored nowMs (max capacity.toNat 1 : Nat)
      (max refillPerMs (1 / 1000000)) ttlMs)

/-- `check_global` and `check_key`, each on the hash of its own bucket. -/
def check (backend : RedisRateLimitBackend) (rates : String → KeyRate) (which : RateCheck)
    (stored : Option RedisBucket) (nowMs : Nat) : Except Nat Unit × RedisBucket :=
  match which with
  | .global => checkBucket stored backend.globalCapacity backend.globalRefillPerMs nowMs
  | .key name =>
      checkBucket stored ((rates name).burstSize.getD backend.perKeyCapacity)
        (((rates name).requestsPerMinute.map fun rpm =>
          requestsPerMinuteToRefillRate rpm / 1000).getD backend.perKeyRefillPerMs) nowMs

/-- Which of the checks of a bucket are accepted. -/
def results (backend : RedisRateLimitBackend) (rates : String → KeyRate) (which : RateCheck) :
    Option RedisBucket → List Nat → List Bool
  | _, [] => []
  | stored, nowMs :: later =>
      (backend.check rates which stored nowMs).1.isOk ::
        results backend rates which (some (backend.check rates which stored nowMs).2) later

end RedisRateLimitBackend

/-! ## A hash is a level -/

/-- A time of Redis in seconds. -/
def msInSeconds (ms : Nat) : ℚ := inSeconds (ms * 1000000)

theorem msInSeconds_mono {m n : Nat} (h : m ≤ n) : msInSeconds m ≤ msInSeconds n :=
  inSeconds_mono (Nat.mul_le_mul_right _ h)

theorem msInSeconds_eq (ms : Nat) : msInSeconds ms = ms / 1000 := by
  unfold msInSeconds inSeconds
  rw [Nat.cast_mul]
  norm_num
  ring

/-- The bucket of the script, with time in seconds. -/
def redisParams (capacity : UInt32) (refillPerMs : ℚ) : Params ℚ where
  cap := (max capacity.toNat 1 : Nat)
  rate := 1000 * max refillPerMs (1 / 1000000)

theorem redisParams_rate_nonneg (capacity : UInt32) (refillPerMs : ℚ) :
    0 ≤ (redisParams capacity refillPerMs).rate := by
  unfold redisParams
  positivity

namespace RedisRateLimitBackend

variable {stored : Option RedisBucket} {capacity : UInt32} {refillPerMs : ℚ} {nowMs : Nat}
  {s : Level ℚ}

/-- The script asks the level for one token. -/
theorem checkBucket_eq_take
    (htokens : redisTokens stored nowMs (max capacity.toNat 1 : Nat)
      (max refillPerMs (1 / 1000000)) = s.filled (redisParams capacity refillPerMs)
        (msInSeconds nowMs)) :
    (checkBucket stored capacity refillPerMs nowMs).1.isOk =
        (s.take (redisParams capacity refillPerMs) (msInSeconds nowMs)).1 ∧
      (checkBucket stored capacity refillPerMs nowMs).2 =
        ⟨(s.take (redisParams capacity refillPerMs) (msInSeconds nowMs)).2.tokens, nowMs,
          nowMs + ttlMs⟩ := by
  unfold checkBucket redisTokenBucketScript Level.take
  rw [htokens]
  by_cases hone : 1 ≤ s.filled (redisParams capacity refillPerMs) (msInSeconds nowMs)
  · simp only [if_neg (not_lt.mpr hone), if_pos hone]
    exact ⟨rfl, rfl⟩
  · have hrate : 0 < max refillPerMs (1 / 1000000) := lt_max_of_lt_right (by norm_num)
    have hceil : 0 < ⌈(1 - s.filled (redisParams capacity refillPerMs) (msInSeconds nowMs)) /
        max refillPerMs (1 / 1000000)⌉ :=
      Int.ceil_pos.mpr (div_pos (sub_pos.mpr (not_le.mp hone)) hrate)
    simp only [if_pos (not_le.mp hone), if_neg hone, Prod.map, waitResult,
      if_neg (not_le.mpr hceil)]
    exact ⟨rfl, rfl⟩

/-- The level that a hash stands for when the last call was at `clock`; before the first call
it is full. -/
structure Mirrors (p : Params ℚ) (clock : Nat) (stored : Option RedisBucket) (s : Level ℚ) :
    Prop where
  sound : s.Sound p
  stamp_le : s.stamp ≤ msInSeconds clock
  full : stored = none → s.tokens = p.cap
  hash : ∀ b, stored = some b →
    b = ⟨s.tokens, clock, clock + ttlMs⟩ ∧ s.stamp = msInSeconds clock

variable {clock : Nat}

/-- The script counts the tokens of the level: a hash that has not been removed holds them,
and after the removal the level is full as well, if `p.cap` tokens flow in meanwhile. -/
theorem Mirrors.tokens_eq (h : Mirrors (redisParams capacity refillPerMs) clock stored s)
    (hnow : clock ≤ nowMs)
    (hgap : nowMs ≤ clock + ttlMs ∨
      (redisParams capacity refillPerMs).cap ≤
        msInSeconds (ttlMs + 1) * (redisParams capacity refillPerMs).rate) :
    redisTokens stored nowMs (max capacity.toNat 1 : Nat) (max refillPerMs (1 / 1000000)) =
      s.filled (redisParams capacity refillPerMs) (msInSeconds nowMs) := by
  have hrate := redisParams_rate_nonneg capacity refillPerMs
  have hstamp : s.stamp ≤ msInSeconds nowMs := le_trans h.stamp_le (msInSeconds_mono hnow)
  cases hstored : stored with
  | none =>
      rw [Level.filled_full hrate (h.full hstored) hstamp]
      simp [redisTokens, redisGet, redisParams]
  | some b =>
      obtain ⟨hb, hstamp_eq⟩ := h.hash b hstored
      have hexpires : b.expiresAt = clock + ttlMs := by rw [hb]
      by_cases hlive : nowMs ≤ clock + ttlMs
      · unfold redisTokens
        rw [redisGet_live (hexpires ▸ hlive), hb]
        unfold Level.filled
        rw [hstamp_eq, msInSeconds_eq, msInSeconds_eq, min_comm]
        simp only [Option.map_some, Option.getD_some, redisParams]
        congr 1
        ring
      · -- The hash is gone.
        have hgone : b.expiresAt < nowMs := hexpires ▸ not_le.mp hlive
        have hlate : msInSeconds (ttlMs + 1) ≤ msInSeconds nowMs - s.stamp := by
          have hle : ((clock + (ttlMs + 1) : Nat) : ℚ) ≤ nowMs := Nat.cast_le.mpr (by omega)
          rw [hstamp_eq, msInSeconds_eq, msInSeconds_eq, msInSeconds_eq]
          rw [Nat.cast_add] at hle
          linarith
        have hflow : (redisParams capacity refillPerMs).cap ≤
            (msInSeconds nowMs - s.stamp) * (redisParams capacity refillPerMs).rate :=
          le_trans (hgap.resolve_left hlive) (mul_le_mul_of_nonneg_right hlate hrate)
        have hfilled : s.filled (redisParams capacity refillPerMs) (msInSeconds nowMs) =
            (redisParams capacity refillPerMs).cap :=
          min_eq_right (by linarith [h.sound.nonneg])
        unfold redisTokens
        rw [redisGet_expired hgone, hfilled]
        simp [redisParams]

/-- The step of the times of a run after which the level is still that of the hash. -/
def Closely (p : Params ℚ) (m n : Nat) : Prop :=
  m ≤ n ∧ (n ≤ m + ttlMs ∨ p.cap ≤ msInSeconds (ttlMs + 1) * p.rate)

theorem Mirrors.checkBucket (h : Mirrors (redisParams capacity refillPerMs) clock stored s)
    (hstep : Closely (redisParams capacity refillPerMs) clock nowMs) :
    (RedisRateLimitBackend.checkBucket stored capacity refillPerMs nowMs).1.isOk =
        (s.take (redisParams capacity refillPerMs) (msInSeconds nowMs)).1 ∧
      Mirrors (redisParams capacity refillPerMs) nowMs
        (some (RedisRateLimitBackend.checkBucket stored capacity refillPerMs nowMs).2)
        (s.take (redisParams capacity refillPerMs) (msInSeconds nowMs)).2 := by
  have hrate := redisParams_rate_nonneg capacity refillPerMs
  obtain ⟨hanswer, hwritten⟩ := checkBucket_eq_take (h.tokens_eq hstep.1 hstep.2)
  have hstamp : s.stamp ≤ msInSeconds nowMs := le_trans h.stamp_le (msInSeconds_mono hstep.1)
  refine ⟨hanswer, h.sound.take hrate hstamp, le_of_eq Level.take_stamp, ?_, ?_⟩
  · intro hnone
    exact absurd hnone (Option.some_ne_none _)
  · intro b hb
    rw [← Option.some.inj hb, hwritten]
    exact ⟨rfl, Level.take_stamp⟩

end RedisRateLimitBackend

/-! ## The two limiters -/

namespace RateCheck

variable (config : RateLimitConfig) (rates : String → KeyRate)

def capacity : RateCheck → UInt32
  | global => config.globalBurstSize
  | key name => (rates name).burstSize.getD config.perKeyBurstSize

/-- The bucket that Redis keeps. -/
def paramsInRedis (which : RateCheck) : Params ℚ :=
  redisParams (which.capacity config rates)
    (requestsPerMinuteToRefillRate (which.requestsPerMinute config rates) / 1000)

variable {config rates}

theorem check_connect (which : RateCheck) (stored : Option RedisBucket) (nowMs : Nat) :
    (RedisRateLimitBackend.connect config).check rates which stored nowMs =
      RedisRateLimitBackend.checkBucket stored (which.capacity config rates)
        (requestsPerMinuteToRefillRate (which.requestsPerMinute config rates) / 1000) nowMs := by
  cases which with
  | global => rfl
  | key name =>
      have hrate : ((rates name).requestsPerMinute.map fun rpm =>
          requestsPerMinuteToRefillRate rpm / 1000).getD
            (requestsPerMinuteToRefillRate config.perKeyRequestsPerMinute / 1000) =
          requestsPerMinuteToRefillRate
            ((rates name).requestsPerMinute.getD config.perKeyRequestsPerMinute) / 1000 := by
        cases (rates name).requestsPerMinute <;> rfl
      exact congrArg (fun rate => RedisRateLimitBackend.checkBucket stored _ rate nowMs) hrate

theorem paramsInRedis_cap (which : RateCheck) :
    (which.paramsInRedis config rates).cap = (which.params config rates).cap := by
  show ((max (which.capacity config rates).toNat 1 : Nat) : ℚ) =
    max (which.burst config rates : ℚ) 1
  cases which with
  | global =>
      rw [Nat.cast_max, Nat.cast_one]
      rfl
  | key name =>
      have hone : (1 : ℚ) ≤ ((RateCheck.key name).burst config rates : ℚ) :=
        Nat.one_le_cast.mpr (Nat.le_max_right _ _)
      rw [max_eq_left hone]
      rfl

theorem paramsInRedis_rate (which : RateCheck) :
    (which.paramsInRedis config rates).rate =
      requestsPerMinuteToRefillRate (which.requestsPerMinute config rates) := by
  have hone : (1 : ℚ) ≤ (max (which.requestsPerMinute config rates).toNat 1 : Nat) :=
    Nat.one_le_cast.mpr (Nat.le_max_right _ _)
  unfold paramsInRedis redisParams requestsPerMinuteToRefillRate
  simp only
  rw [max_eq_left (by linarith)]
  ring

end RateCheck

namespace RedisRateLimitBackend

variable {config : RateLimitConfig} {rates : String → KeyRate} {which : RateCheck}
  {stored : Option RedisBucket} {clock : Nat} {times : List Nat} {s : Level ℚ}

theorem Mirrors.results_eq (h : Mirrors (which.paramsInRedis config rates) clock stored s)
    (hclock : (clock :: times).IsChain (Closely (which.paramsInRedis config rates))) :
    (connect config).results rates which stored times =
      s.answers (which.paramsInRedis config rates) (times.map msInSeconds) := by
  induction times generalizing clock stored s with
  | nil => rfl
  | cons nowMs later ih =>
      obtain ⟨hstep, hlater⟩ := List.isChain_cons_cons.mp hclock
      have hcheck := h.checkBucket hstep
      rw [← RateCheck.check_connect] at hcheck
      rw [results, List.map_cons, Level.answers, hcheck.1]
      exact congrArg _ (ih hcheck.2 hlater)

/-- A hash that has been removed and one that never was are the same. -/
theorem results_expired {b : RedisBucket} {nowMs : Nat} (h : b.expiresAt < nowMs)
    (later : List Nat) (backend : RedisRateLimitBackend) :
    backend.results rates which (some b) (nowMs :: later) =
      backend.results rates which none (nowMs :: later) := by
  have htokens : redisTokens (some b) nowMs = redisTokens none nowMs := by
    unfold redisTokens
    rw [redisGet_expired h]
    rfl
  have hcheck : backend.check rates which (some b) nowMs =
      backend.check rates which none nowMs := by
    unfold check checkBucket redisTokenBucketScript
    rw [htokens]
  rw [results, results, hcheck]

theorem mirrors_none (hfull : s.tokens = (which.paramsInRedis config rates).cap)
    (hstamp : s.stamp ≤ msInSeconds clock) :
    Mirrors (which.paramsInRedis config rates) clock none s where
  sound := by
    have hcap : 0 ≤ (which.paramsInRedis config rates).cap := Nat.cast_nonneg _
    exact ⟨hfull ▸ hcap, le_of_eq hfull⟩
  stamp_le := hstamp
  full := fun _ => hfull
  hash := by
    intro b hb
    exact absurd hb.symm (Option.some_ne_none b)

end RedisRateLimitBackend

/-- The local limiter and Redis accept the same checks of a bucket, whenever they are
made. -/
def RateLimiter.AgreesWithRedis (config : RateLimitConfig) (hkeys : 0 < config.maxTrackedKeys)
    (rates : String → KeyRate) (which : RateCheck) : Prop :=
  ∀ (created : Nat) (times : List Nat),
    (created :: times.map (· * 1000000)).IsChain (· ≤ ·) →
    (RateLimiter.new config hkeys created).results rates
        (times.map fun ms => ⟨ms * 1000000, which⟩) =
      (RedisRateLimitBackend.connect config).results rates which none times

namespace RateLimiter

variable {config : RateLimitConfig} {rates : String → KeyRate}
  (h : validateRateLimitConfig config = [])

/-- The local side of a run with one bucket. -/
theorem results_single (which : RateCheck) {created : Nat} {times : List Nat}
    (hclock : (created :: times.map (· * 1000000)).IsChain (· ≤ ·)) :
    (new config (rateLimitConfig_valid h).2 created).results rates
        (times.map fun ms => ⟨ms * 1000000, which⟩) =
      ((new config (rateLimitConfig_valid h).2 created).levelOf config rates which).answers
        (which.params config rates) (times.map msInSeconds) := by
  have htracks : (new config (rateLimitConfig_valid h).2 created).Tracks config rates
      created which.names := tracks_new _ created (which.card_names_le h)
  have hnows : (times.map fun ms => (⟨ms * 1000000, which⟩ : RateEvent)).map RateEvent.now =
      times.map (· * 1000000) := by
    rw [List.map_map]
    rfl
  have hone : ∀ e ∈ times.map fun ms => (⟨ms * 1000000, which⟩ : RateEvent), e.check = which := by
    intro e he
    obtain ⟨ms, -, rfl⟩ := List.mem_map.mp he
    rfl
  rw [htracks.results_eq (hnows ▸ hclock) (fun e he => RateCheck.among_names (hone e he)) hone,
    List.map_map]
  rfl

/-- Where the rate is not raised, both keep the same bucket. -/
theorem params_eq_paramsInRedis {which : RateCheck}
    (hsix : 6 ≤ (which.requestsPerMinute config rates).toNat) :
    which.params config rates = which.paramsInRedis config rates := by
  have hrate : (which.params config rates).rate = (which.paramsInRedis config rates).rate := by
    rw [which.paramsInRedis_rate, RateCheck.params_rate hsix, requestsPerMinuteToRefillRate,
      Nat.max_eq_left (by omega)]
  exact Params.ext which.paramsInRedis_cap.symm hrate

theorem agrees_of_refills {which : RateCheck}
    (hsix : 6 ≤ (which.requestsPerMinute config rates).toNat)
    (hrefills : 60000 * which.burst config rates ≤
      120001 * (which.requestsPerMinute config rates).toNat) :
    AgreesWithRedis config (rateLimitConfig_valid h).2 rates which := by
  intro created times hclock
  have htracks : (new config (rateLimitConfig_valid h).2 created).Tracks config rates
      created which.names := tracks_new _ created (which.card_names_le h)
  have hfull :
      ((new config (rateLimitConfig_valid h).2 created).levelOf config rates which).tokens =
        (which.params config rates).cap := levelOf_new _ created which
  have hstamp := (htracks.levelOf_sound which).2
  have hrefills' : (which.params config rates).cap ≤
      msInSeconds (RedisRateLimitBackend.ttlMs + 1) * (which.params config rates).rate := by
    have hcast : (60000 : ℚ) * which.burst config rates ≤
        120001 * (which.requestsPerMinute config rates).toNat := by exact_mod_cast hrefills
    rw [RateCheck.params_cap h, RateCheck.params_rate hsix, msInSeconds_eq]
    unfold RedisRateLimitBackend.ttlMs
    norm_num
    linarith
  rw [results_single h which hclock]
  rw [params_eq_paramsInRedis hsix] at hfull hrefills' ⊢
  cases times with
  | nil => rfl
  | cons first later =>
      obtain ⟨hfirst, hlater⟩ := List.isChain_cons_cons.mp hclock
      have hstamp' := le_trans hstamp (inSeconds_mono hfirst)
      have hmirrors := RedisRateLimitBackend.mirrors_none hfull hstamp'
      symm
      apply hmirrors.results_eq
      have hmono : ((first :: later).map (· * 1000000)).IsChain (· ≤ ·) := hlater
      have hchain : (first :: later).IsChain
          (RedisRateLimitBackend.Closely (which.paramsInRedis config rates)) :=
        ((List.isChain_map _).mp hmono).imp fun m n hle =>
          ⟨Nat.le_of_mul_le_mul_right hle (by norm_num), .inr hrefills'⟩
      exact List.isChain_cons_cons.mpr ⟨⟨le_refl first, .inr hrefills'⟩, hchain⟩

end RateLimiter

/-! ## Where they part -/

theorem isChain_replicate_append {R : Nat → Nat → Prop} {t : Nat} (ht : R t t) (n : Nat)
    {later : List Nat} (h : (t :: later).IsChain R) :
    (t :: (List.replicate n t ++ later)).IsChain R := by
  induction n with
  | zero => exact h
  | succ n ih =>
      rw [List.replicate_succ, List.cons_append]
      exact List.isChain_cons_cons.mpr ⟨ht, ih⟩

section Bursts

variable {config : RateLimitConfig} {rates : String → KeyRate} {which : RateCheck}
  {later : List Nat}

/-- A burst uses up the local bucket; what is accepted after it is accepted by Redis too. -/
theorem RateLimiter.AgreesWithRedis.results_burst (h : validateRateLimitConfig config = [])
    (hagrees : RateLimiter.AgreesWithRedis config (rateLimitConfig_valid h).2 rates which)
    (hlater : (0 :: later).IsChain (· ≤ ·)) :
    (RedisRateLimitBackend.connect config).results rates which none
        (List.replicate (which.burst config rates) 0 ++ later) =
      List.replicate (which.burst config rates) true ++
        Level.answers (which.params config rates) ⟨0, msInSeconds 0⟩ (later.map msInSeconds) := by
  have hchain := isChain_replicate_append (le_refl 0) (which.burst config rates) hlater
  have hclock : (0 :: (List.replicate (which.burst config rates) 0 ++ later).map
      (· * 1000000)).IsChain (· ≤ ·) :=
    (List.isChain_map (· * 1000000)).mpr (hchain.imp fun m n hle => Nat.mul_le_mul_right _ hle)
  have hzero : msInSeconds 0 = 0 := zero_div _
  rw [← hagrees 0 _ hclock, results_single h which hclock, levelOf_new_zero,
    RateCheck.params_cap h, List.map_append, List.map_replicate, hzero]
  exact Level.answers_burst (le_of_eq (RateCheck.params_cap h which).symm) _

namespace RedisRateLimitBackend

/-- A burst uses up the bucket in Redis. -/
theorem results_burst (h : validateRateLimitConfig config = []) (nowMs : Nat)
    (hlater : (nowMs :: later).IsChain (Closely (which.paramsInRedis config rates))) :
    (connect config).results rates which none
        (List.replicate (which.burst config rates) nowMs ++ later) =
      List.replicate (which.burst config rates) true ++
        Level.answers (which.paramsInRedis config rates) ⟨0, msInSeconds nowMs⟩
          (later.map msInSeconds) := by
  have hcap : (which.paramsInRedis config rates).cap = which.burst config rates := by
    rw [which.paramsInRedis_cap, RateCheck.params_cap h]
  have hself : Closely (which.paramsInRedis config rates) nowMs nowMs :=
    ⟨le_refl nowMs, .inl (Nat.le_add_right _ _)⟩
  have hmirrors : Mirrors (which.paramsInRedis config rates) nowMs none
      ⟨which.burst config rates, msInSeconds nowMs⟩ := mirrors_none hcap.symm (le_refl _)
  rw [hmirrors.results_eq (isChain_replicate_append hself _ hlater), List.map_append,
    List.map_replicate]
  exact Level.answers_burst (le_of_eq hcap.symm) _

/-- The hash after a number of checks. -/
def hashAfter (backend : RedisRateLimitBackend) (rates : String → KeyRate) (which : RateCheck) :
    Option RedisBucket → List Nat → Option RedisBucket
  | stored, [] => stored
  | stored, nowMs :: later =>
      hashAfter backend rates which (some (backend.check rates which stored nowMs).2) later

theorem results_append (backend : RedisRateLimitBackend) (stored : Option RedisBucket)
    (times : List Nat) :
    backend.results rates which stored (times ++ later) =
      backend.results rates which stored times ++
        backend.results rates which (backend.hashAfter rates which stored times) later := by
  induction times generalizing stored with
  | nil => rfl
  | cons nowMs rest ih => rw [List.cons_append, results, results, hashAfter, ih, List.cons_append]

theorem check_expiresAt (backend : RedisRateLimitBackend) (stored : Option RedisBucket)
    (nowMs : Nat) : (backend.check rates which stored nowMs).2.expiresAt = nowMs + ttlMs := by
  have hbucket : ∀ capacity refillPerMs,
      (checkBucket stored capacity refillPerMs nowMs).2.expiresAt = nowMs + ttlMs := by
    intro capacity refillPerMs
    unfold checkBucket redisTokenBucketScript
    dsimp only [Prod.map]
    split <;> rfl
  cases which with
  | global => exact hbucket _ _
  | key name => exact hbucket _ _

theorem hashAfter_replicate (rates : String → KeyRate) (which : RateCheck)
    (backend : RedisRateLimitBackend) (stored : Option RedisBucket) (nowMs n : Nat) :
    ∃ b, backend.hashAfter rates which stored (List.replicate (n + 1) nowMs) = some b ∧
      b.expiresAt = nowMs + ttlMs := by
  induction n generalizing stored with
  | zero => exact ⟨_, rfl, check_expiresAt backend stored nowMs⟩
  | succ n ih =>
      rw [List.replicate_succ, hashAfter]
      exact ih _

/-- Two bursts so far apart that the hash of the first has been removed. -/
theorem results_two_bursts (h : validateRateLimitConfig config = []) :
    (connect config).results rates which none
        (List.replicate (which.burst config rates) 0 ++
          List.replicate (which.burst config rates) (ttlMs + 1)) =
      List.replicate (which.burst config rates) true ++
        List.replicate (which.burst config rates) true := by
  have hburst : ∀ nowMs, (connect config).results rates which none
      (List.replicate (which.burst config rates) nowMs) =
        List.replicate (which.burst config rates) true := by
    intro nowMs
    have hlater : [nowMs].IsChain (Closely (which.paramsInRedis config rates)) :=
      List.isChain_singleton _
    simpa [Level.answers] using results_burst h nowMs hlater
  have hpos : 1 ≤ which.burst config rates := RateCheck.burst_pos h which
  obtain ⟨n, hn⟩ := Nat.exists_eq_add_of_le' hpos
  obtain ⟨b, hb, hexpires⟩ := hashAfter_replicate rates which (connect config) none 0 n
  have hgone : b.expiresAt < ttlMs + 1 := by omega
  rw [results_append, hburst 0]
  congr 1
  rw [hn, hb, List.replicate_succ, results_expired hgone, ← List.replicate_succ, ← hn,
    hburst (ttlMs + 1)]

end RedisRateLimitBackend

namespace RateLimiter

variable (h : validateRateLimitConfig config = [])

/-- After a burst and ten seconds, Redis has a token only at six requests a minute. -/
theorem six_le_of_agrees
    (hagrees : AgreesWithRedis config (rateLimitConfig_valid h).2 rates which) :
    6 ≤ (which.requestsPerMinute config rates).toNat := by
  have hmono : [0, 10000].IsChain (· ≤ ·) := by decide
  have hgap : [0, 10000].IsChain
      (RedisRateLimitBackend.Closely (which.paramsInRedis config rates)) :=
    List.isChain_cons_cons.mpr ⟨⟨by decide, .inl (by decide)⟩, List.isChain_singleton _⟩
  have hsame := hagrees.results_burst h hmono
  rw [RedisRateLimitBackend.results_burst h 0 hgap] at hsame
  have hone : 1 ≤ (which.params config rates).cap := le_max_right _ _
  have hten : msInSeconds 10000 - msInSeconds 0 = 10 := by
    rw [msInSeconds_eq, msInSeconds_eq]
    norm_num
  have hgranted : Level.answers (which.params config rates) ⟨0, msInSeconds 0⟩
      [msInSeconds 10000] = [true] := by
    have hrate : 1 / 10 ≤ (which.params config rates).rate := le_max_right _ _
    rw [Level.answers_single_iff hone, hten]
    linarith
  have hredis := (List.append_cancel_left hsame).trans hgranted
  rw [← which.paramsInRedis_cap] at hone
  have hflow := (Level.answers_single_iff hone).mp hredis
  rw [hten, which.paramsInRedis_rate, requestsPerMinuteToRefillRate] at hflow
  have hsix : (6 : ℚ) ≤ (max (which.requestsPerMinute config rates).toNat 1 : Nat) := by linarith
  have hsix' : 6 ≤ max (which.requestsPerMinute config rates).toNat 1 := by exact_mod_cast hsix
  omega

/-- After the hash of a burst has been removed, Redis accepts a whole burst again. -/
theorem refills_of_agrees
    (hagrees : AgreesWithRedis config (rateLimitConfig_valid h).2 rates which) :
    60000 * which.burst config rates ≤ 120001 * (which.requestsPerMinute config rates).toNat := by
  have hsix := six_le_of_agrees h hagrees
  have hlater : (0 :: List.replicate (which.burst config rates)
      (RedisRateLimitBackend.ttlMs + 1)).IsChain (· ≤ ·) := by
    rw [List.isChain_iff_pairwise, List.pairwise_cons, List.pairwise_replicate]
    exact ⟨fun _ _ => Nat.zero_le _, .inr (le_refl _)⟩
  have hlocal := hagrees.results_burst h hlater
  rw [RedisRateLimitBackend.results_two_bursts h, List.map_replicate] at hlocal
  have hall := (List.append_cancel_left hlocal).symm
  have hcap : 0 ≤ (which.params config rates).cap := le_trans zero_le_one (le_max_right _ _)
  have hrate : 0 ≤ (which.params config rates).rate := by
    rw [RateCheck.params_rate hsix]
    positivity
  have hstop : msInSeconds 0 ≤ msInSeconds (RedisRateLimitBackend.ttlMs + 1) :=
    msInSeconds_mono (Nat.zero_le _)
  have hle := Level.le_of_answers_replicate ⟨le_refl 0, hcap⟩ hrate hstop hall
  have hlate : msInSeconds (RedisRateLimitBackend.ttlMs + 1) - msInSeconds 0 = 120001 / 1000 := by
    rw [msInSeconds_eq, msInSeconds_eq, RedisRateLimitBackend.ttlMs]
    norm_num
  rw [RateCheck.params_rate hsix, hlate] at hle
  have hcast : (60000 : ℚ) * which.burst config rates ≤
      120001 * (which.requestsPerMinute config rates).toNat := by linarith
  exact_mod_cast hcast

/-- Redis and the local limiter accept the same checks of a bucket exactly if its rate is at
least six requests a minute and fills the bucket before Redis removes the hash. -/
theorem agreesWithRedis_iff (h : validateRateLimitConfig config = []) (which : RateCheck) :
    AgreesWithRedis config (rateLimitConfig_valid h).2 rates which ↔
      6 ≤ (which.requestsPerMinute config rates).toNat ∧
        60000 * which.burst config rates ≤
          120001 * (which.requestsPerMinute config rates).toNat := by
  constructor
  · intro hagrees
    exact ⟨six_le_of_agrees h hagrees, refills_of_agrees h hagrees⟩
  · intro hrefills
    exact agrees_of_refills h hrefills.1 hrefills.2

theorem agreesWithRedis_default :
    AgreesWithRedis {} (by decide) (fun _ => {}) (.key "k") ∧
      6 ≤ ((RateCheck.key "k").requestsPerMinute {} fun _ => {}).toNat :=
  ⟨(agreesWithRedis_iff (by decide) (.key "k")).mpr (by decide), by decide⟩

/-- A key with ten requests a minute and a burst of thirty: Redis forgets after two minutes
that the burst has been used. -/
theorem burst_not_agreed :
    ¬∀ (config : RateLimitConfig) (h : validateRateLimitConfig config = [])
      (rates : String → KeyRate) (which : RateCheck),
      AgreesWithRedis config (rateLimitConfig_valid h).2 rates which := by
  intro hall
  have hvalid : validateRateLimitConfig {} = [] := by decide
  have hrefills := refills_of_agrees hvalid
    (hall _ hvalid (fun _ => ⟨some 10, some 30⟩) (.key "k"))
  exact absurd hrefills (by decide)

end RateLimiter
end Bursts

end RustyGate
