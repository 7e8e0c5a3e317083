/-
The rate that the limiter keeps.

The accepted checks of a bucket in a stretch of time are bounded by the size of the bucket
and by what flows into it.  The configured rate is that bound only from six requests a
minute on: `TokenBucket::new` raises every smaller rate to a tenth of a token a second
(`enforces_iff`).
-/
import RustyGate.Config.Validate
import RustyGate.RateLimit.Runs

namespace RustyGate

open Metering

variable {config : RateLimitConfig} {rates : String → KeyRate}

/-! ## The part of one bucket in a run -/

namespace RateLimiter

variable {l : RateLimiter} {clock : Nat} {tracked : Finset String} {which : RateCheck}
  {start stop : ℚ}

theorem Tracks.acceptedIn_eq {events : List RateEvent} (h : l.Tracks config rates clock tracked)
    (hclock : (clock :: events.map RateEvent.now).IsChain (· ≤ ·))
    (hamong : ∀ e ∈ events, RateEvent.Among tracked e) :
    l.acceptedIn rates which start stop events =
      Level.accepted (which.params config rates) start stop (l.levelOf config rates which)
        (timesOf which events) := by
  rw [Level.accepted, ← h.askedOf_eq which hclock hamong, askedOf, List.countP_map,
    List.countP_filter, acceptedIn]
  congr 1
  funext asked
  by_cases hcheck : asked.1.check = which <;> simp [hcheck]

theorem chain_timesOf (which : RateCheck) {events : List RateEvent} {stamp : ℚ}
    (hstamp : stamp ≤ inSeconds clock)
    (hclock : (clock :: events.map RateEvent.now).IsChain (· ≤ ·)) :
    (stamp :: timesOf which events).IsChain (· ≤ ·) := by
  have hsome : (clock :: (events.filter fun e => e.check = which).map RateEvent.now).IsChain
      (· ≤ ·) := by
    rw [List.isChain_iff_pairwise] at hclock ⊢
    exact hclock.sublist ((List.filter_sublist.map RateEvent.now).cons_cons clock)
  have hseconds := chain_inSeconds hstamp hsome
  rw [List.map_map] at hseconds
  exact hseconds

end RateLimiter

/-! ## The configured rate -/

/-- What the checks on the rate limits leave. -/
theorem rateLimitConfig_valid (h : validateRateLimitConfig config = []) :
    0 < config.globalBurstSize.toNat ∧ 0 < config.maxTrackedKeys := by
  simp only [validateRateLimitConfig, List.append_eq_nil_iff, rejectZero_eq_nil,
    beq_eq_false_iff_ne] at h
  obtain ⟨⟨⟨⟨⟨-, hburst⟩, -⟩, -⟩, hkeys⟩, -⟩ := h
  have hburst' : config.globalBurstSize.toNat ≠ 0 := fun hzero =>
    hburst (UInt32.toNat_inj.mp hzero)
  omega

namespace RateCheck

theorem burst_pos (h : validateRateLimitConfig config = []) (which : RateCheck) :
    1 ≤ which.burst config rates := by
  cases which with
  | global => exact (rateLimitConfig_valid h).1
  | key name => exact Nat.le_max_right _ _

theorem params_cap (h : validateRateLimitConfig config = []) (which : RateCheck) :
    (which.params config rates).cap = which.burst config rates := by
  have hone : (1 : ℚ) ≤ which.burst config rates := Nat.one_le_cast.mpr (burst_pos h which)
  exact max_eq_left hone

theorem params_rate {which : RateCheck} (hsix : 6 ≤ (which.requestsPerMinute config rates).toNat) :
    (which.params config rates).rate = (which.requestsPerMinute config rates).toNat / 60 := by
  unfold params requestsPerMinuteToRefillRate
  rw [Nat.max_eq_left (by omega)]
  have hcast : (6 : ℚ) ≤ (which.requestsPerMinute config rates).toNat := by exact_mod_cast hsix
  apply max_eq_left
  linarith

end RateCheck

/-- In every run of a new limiter in which the keys are no more than are tracked, and in
every stretch of time, the accepted checks of the bucket are at most its burst and the
configured rate times the length of the stretch. -/
def RateLimiter.Enforces (config : RateLimitConfig) (hkeys : 0 < config.maxTrackedKeys)
    (rates : String → KeyRate) (which : RateCheck) : Prop :=
  ∀ (created : Nat) (events : List RateEvent) (tracked : Finset String),
    (created :: events.map RateEvent.now).IsChain (· ≤ ·) →
    tracked.card ≤ config.maxTrackedKeys →
    (∀ e ∈ events, RateEvent.Among tracked e) →
    ∀ start seconds : ℚ, 0 ≤ seconds →
      ((RateLimiter.new config hkeys created).acceptedIn rates which start (start + seconds)
          events : ℚ) ≤
        which.burst config rates + seconds * (which.requestsPerMinute config rates).toNat / 60

variable (h : validateRateLimitConfig config = [])

theorem RateLimiter.enforces_of_six_le {which : RateCheck}
    (hsix : 6 ≤ (which.requestsPerMinute config rates).toNat) :
    RateLimiter.Enforces config (rateLimitConfig_valid h).2 rates which := by
  intro created events tracked hclock hcard hamong start seconds hseconds
  have htracks : (new config (rateLimitConfig_valid h).2 created).Tracks config rates created
      tracked := tracks_new _ created hcard
  obtain ⟨hsound, hstamp⟩ := htracks.levelOf_sound which
  have hrate : 0 ≤ (which.params config rates).rate := by
    rw [RateCheck.params_rate hsix]
    positivity
  rw [htracks.acceptedIn_eq hclock hamong]
  have hwindow : start ≤ start + seconds := by linarith
  have hle := Level.accepted_le hsound hrate hwindow (chain_timesOf which hstamp hclock)
  rw [RateCheck.params_cap h, RateCheck.params_rate hsix, add_sub_cancel_left] at hle
  linarith

/-- A burst at the start, and one more check ten seconds later. -/
def burstAndOne (which : RateCheck) (burst : Nat) : List RateEvent :=
  List.replicate burst ⟨0, which⟩ ++ [⟨10000000000, which⟩]

/-- The keys of the checks of one bucket. -/
def RateCheck.names : RateCheck → Finset String
  | global => ∅
  | key name => {name}

theorem RateCheck.card_names_le (h : validateRateLimitConfig config = []) (which : RateCheck) :
    which.names.card ≤ config.maxTrackedKeys := by
  have hpos := (rateLimitConfig_valid h).2
  cases which with
  | global => exact Nat.zero_le _
  | key name => exact hpos

theorem RateCheck.among_names {which : RateCheck} {e : RateEvent} (h : e.check = which) :
    RateEvent.Among which.names e := by
  intro name hname
  rw [← h, hname]
  exact Finset.mem_singleton_self name

theorem burstAndOne_check {which : RateCheck} {burst : Nat} {e : RateEvent}
    (he : e ∈ burstAndOne which burst) : e.check = which := by
  rcases List.mem_append.mp he with hmem | hmem
  · rw [(List.mem_replicate.mp hmem).2]
  · rw [List.mem_singleton.mp hmem]

theorem burstAndOne_run (which : RateCheck) (burst : Nat) :
    (0 :: (burstAndOne which burst).map RateEvent.now).IsChain (· ≤ ·) ∧
      ∀ e ∈ burstAndOne which burst, RateEvent.Among which.names e := by
  constructor
  · rw [burstAndOne, List.map_append, List.map_replicate, List.isChain_iff_pairwise,
      ← List.cons_append, ← List.replicate_succ, List.pairwise_append]
    simp [List.pairwise_replicate]
  · intro e he
    exact RateCheck.among_names (burstAndOne_check he)

/-- The last of these checks is accepted, whatever the rate. -/
theorem acceptedIn_burstAndOne (which : RateCheck) :
    (RateLimiter.new config (rateLimitConfig_valid h).2 0).acceptedIn rates which 0 10
      (burstAndOne which (which.burst config rates)) = which.burst config rates + 1 := by
  obtain ⟨hclock, hamong⟩ := burstAndOne_run which (which.burst config rates)
  have htracks : (RateLimiter.new config (rateLimitConfig_valid h).2 0).Tracks config rates 0
      which.names := RateLimiter.tracks_new _ 0 (which.card_names_le h)
  have htimes : RateLimiter.timesOf which (burstAndOne which (which.burst config rates)) =
      List.replicate (which.burst config rates) 0 ++ [10] := by
    have hall : ∀ e ∈ burstAndOne which (which.burst config rates), e.check = which :=
      fun e he => burstAndOne_check he
    rw [RateLimiter.timesOf, List.filter_eq_self.mpr fun e he => decide_eq_true (hall e he)]
    simp [burstAndOne, inSeconds]
    norm_num
  have hcap : ((which.burst config rates : Nat) : ℚ) ≤ (which.params config rates).cap :=
    le_of_eq (RateCheck.params_cap h which).symm
  have hflow : 1 ≤ (10 - 0) * (which.params config rates).rate := by
    have hrate : 1 / 10 ≤ (which.params config rates).rate := le_max_right _ _
    linarith
  rw [htracks.acceptedIn_eq hclock hamong, RateLimiter.levelOf_new_zero, RateCheck.params_cap h,
    htimes]
  exact Level.accepted_burst hcap (le_max_right _ _) (by norm_num) hflow

theorem RateLimiter.six_le_of_enforces {which : RateCheck}
    (henforces : RateLimiter.Enforces config (rateLimitConfig_valid h).2 rates which) :
    6 ≤ (which.requestsPerMinute config rates).toNat := by
  obtain ⟨hclock, hamong⟩ := burstAndOne_run which (which.burst config rates)
  have hle := henforces 0 _ which.names hclock (which.card_names_le h) hamong 0 10 (by norm_num)
  rw [zero_add, acceptedIn_burstAndOne h which, Nat.cast_succ] at hle
  have hsix : (6 : ℚ) ≤ (which.requestsPerMinute config rates).toNat := by linarith
  exact_mod_cast hsix

/-- A bucket keeps the configured rate exactly if that is at least six requests a minute. -/
theorem RateLimiter.enforces_iff (h : validateRateLimitConfig config = []) (which : RateCheck) :
    RateLimiter.Enforces config (rateLimitConfig_valid h).2 rates which ↔
      6 ≤ (which.requestsPerMinute config rates).toNat := by
  constructor
  · exact six_le_of_enforces h
  · exact enforces_of_six_le h

theorem RateLimiter.enforces_default :
    RateLimiter.Enforces {} (by decide) (fun _ => {}) (.key "k") ∧
      6 ≤ ((RateCheck.key "k").requestsPerMinute {} fun _ => {}).toNat :=
  ⟨(RateLimiter.enforces_iff (by decide) (.key "k")).mpr (by decide), by decide⟩

/-- One request a minute is a valid limit, but a key that has used up its burst is served
again after ten seconds. -/
theorem RateLimiter.one_a_minute_not_enforced :
    ¬∀ (config : RateLimitConfig) (h : validateRateLimitConfig config = [])
      (rates : String → KeyRate),
      (∀ name, 0 < ((RateCheck.key name).requestsPerMinute config rates).toNat) →
        ∀ which, RateLimiter.Enforces config (rateLimitConfig_valid h).2 rates which := by
  intro hall
  have hvalid : validateRateLimitConfig { perKeyRequestsPerMinute := 1 } = [] := by decide
  have hsix := six_le_of_enforces hvalid
    (hall _ hvalid (fun _ => {}) (fun _ => Nat.one_pos) (.key "k"))
  exact absurd hsix (by decide)

end RustyGate
