/-
Runs of the rate limiter.

As long as no more keys turn up than are tracked, the checks of one bucket go on as if the
other buckets were not there.  The level of a bucket (`levelOf`), full for a key that has
not been seen, is what carries this over: a check takes a token from the level of its own
bucket and leaves every other level as it is (`Tracks.perform`).  This holds, too, of a check
that has read the clock before it waited for the lock (`Draws`).
-/
import RustyGate.RateLimit.Limiter
import Mathlib.Data.Finset.Card

namespace RustyGate

open Metering

/-- The bucket that a check asks. -/
inductive RateCheck where
  | global
  | key (name : String)
  deriving DecidableEq, Repr

structure RateEvent where
  now : Nat
  check : RateCheck
  deriving DecidableEq, Repr

/-- The check names no other keys than these. -/
def RateEvent.Among (tracked : Finset String) (e : RateEvent) : Prop :=
  ∀ name, e.check = .key name → name ∈ tracked

/-- The limits that come with the requests of a key. -/
structure KeyRate where
  requestsPerMinute : Option UInt32 := none
  burstSize : Option UInt32 := none
  deriving DecidableEq, Repr

variable (config : RateLimitConfig) (rates : String → KeyRate)

namespace RateCheck

def requestsPerMinute : RateCheck → UInt32
  | global => config.globalRequestsPerMinute
  | key name => (rates name).requestsPerMinute.getD config.perKeyRequestsPerMinute

def burst : RateCheck → Nat
  | global => config.globalBurstSize.toNat
  | key name => max ((rates name).burstSize.getD config.perKeyBurstSize).toNat 1

/-- The size and the rate of the bucket. -/
def params (which : RateCheck) : Params ℚ where
  cap := max (which.burst config rates : ℚ) 1
  rate := max (requestsPerMinuteToRefillRate (which.requestsPerMinute config rates)) (1 / 10)

end RateCheck

namespace RateLimiter

def perform (l : RateLimiter) (e : RateEvent) : Except Nat Unit × RateLimiter :=
  match e.check with
  | .global => l.checkGlobal e.now
  | .key name =>
      l.checkKeyWithOverride name (rates name).requestsPerMinute (rates name).burstSize e.now

/-- Which of the checks are accepted. -/
def results : RateLimiter → List RateEvent → List Bool
  | _, [] => []
  | l, e :: later => (l.perform rates e).1.isOk :: results (l.perform rates e).2 later

/-- The accepted checks of a bucket from `start` to `stop`, in seconds. -/
def acceptedIn (which : RateCheck) (start stop : ℚ) (l : RateLimiter)
    (events : List RateEvent) : Nat :=
  (events.zip (l.results rates events)).countP fun asked =>
    asked.2 && decide (asked.1.check = which ∧
      start ≤ inSeconds asked.1.now ∧ inSeconds asked.1.now ≤ stop)

/-! ## The levels of the buckets -/

def levelOf (l : RateLimiter) : RateCheck → Level ℚ
  | .global => l.globalBucket.level
  | .key name =>
      ((l.perKeyBuckets.get? name).map TokenBucket.level).getD
        ⟨((RateCheck.key name).params config rates).cap, 0⟩

/-- Every bucket has the size and the rate that its checks ask for, was last right by
`clock`, and the keys are among `tracked`, for which there is room. -/
structure Tracks (l : RateLimiter) (clock : Nat) (tracked : Finset String) : Prop where
  global_fits : l.globalBucket.Fits (RateCheck.global.params config rates) clock
  key_fits : ∀ name b, l.perKeyBuckets.get? name = some b →
    b.Fits ((RateCheck.key name).params config rates) clock
  keys_tracked : ∀ name ∈ l.perKeyBuckets.keys, name ∈ tracked
  card_le : tracked.card ≤ l.perKeyBuckets.cap
  capacity_eq : l.perKeyCapacity = config.perKeyBurstSize.toNat
  rate_eq : l.perKeyRefillPerSecond = requestsPerMinuteToRefillRate config.perKeyRequestsPerMinute

variable {config rates} {l : RateLimiter} {clock now : Nat} {tracked : Finset String}
  {name : String}

theorem levelOf_seen {b : TokenBucket} (h : l.perKeyBuckets.get? name = some b) :
    l.levelOf config rates (.key name) = b.level := by
  rw [levelOf, h]
  rfl

theorem levelOf_unseen (h : l.perKeyBuckets.get? name = none) :
    l.levelOf config rates (.key name) = ⟨((RateCheck.key name).params config rates).cap, 0⟩ := by
  rw [levelOf, h]
  rfl

theorem levelOf_congr {l' : RateLimiter}
    (h : l'.perKeyBuckets.get? name = l.perKeyBuckets.get? name) :
    l'.levelOf config rates (.key name) = l.levelOf config rates (.key name) := by
  rw [levelOf, levelOf, h]

/-- There is no eviction where there is room for the key. -/
theorem evictions_of_hasRoom (hroom : l.perKeyBuckets.HasRoom name)
    (requestsPerMinute burstSize : Option UInt32) (now : Nat) :
    (l.checkKeyWithOverride name requestsPerMinute burstSize now).2.perKeyEvictions =
      l.perKeyEvictions := by
  refine if_neg fun hfull => ?_
  simp only [Bool.and_eq_true, Bool.not_eq_true', beq_iff_eq] at hfull
  rcases hroom with hmem | hlt
  · rw [Lru.contains_of_mem_keys hmem] at hfull
    cases hfull.1
  · omega

section Tracked

variable (h : l.Tracks config rates clock tracked)

include h

theorem Tracks.later (hnow : clock ≤ now) :
    l.Tracks config rates now tracked :=
  { h with
    global_fits := h.global_fits.later hnow
    key_fits := fun name b hb => (h.key_fits name b hb).later hnow }

theorem Tracks.hasRoom (hname : name ∈ tracked) :
    l.perKeyBuckets.HasRoom name := by
  by_cases hmem : name ∈ l.perKeyBuckets.keys
  · exact .inl hmem
  · have hnodup : (name :: l.perKeyBuckets.keys).Nodup :=
      List.nodup_cons.mpr ⟨hmem, l.perKeyBuckets.nodup⟩
    have hsub : (name :: l.perKeyBuckets.keys).toFinset ⊆ tracked := by
      intro j hj
      rcases List.mem_cons.mp (List.mem_toFinset.mp hj) with rfl | hj
      · exact hname
      · exact h.keys_tracked j hj
    have hcard := Finset.card_le_card hsub
    rw [List.toFinset_card_of_nodup hnodup, List.length_cons] at hcard
    have hlen : l.perKeyBuckets.keys.length = l.perKeyBuckets.len := List.length_map _
    have hcap := h.card_le
    exact .inr (by omega)

/-- The bucket that a key is given when it is seen for the first time. -/
def freshBucket (l : RateLimiter) (rate : KeyRate) (now : Nat) : TokenBucket :=
  .new (max ((rate.burstSize.map fun b => (b.toNat : ℚ)).getD l.perKeyCapacity) 1)
    ((rate.requestsPerMinute.map requestsPerMinuteToRefillRate).getD l.perKeyRefillPerSecond) now

theorem Tracks.freshBucket_eq (name : String) (now : Nat) :
    l.freshBucket (rates name) now =
      .new ((RateCheck.key name).burst config rates)
        (requestsPerMinuteToRefillRate ((RateCheck.key name).requestsPerMinute config rates))
        now := by
  have hcap : max (((rates name).burstSize.map fun b => (b.toNat : ℚ)).getD l.perKeyCapacity) 1 =
      ((RateCheck.key name).burst config rates : ℚ) := by
    rw [h.capacity_eq, RateCheck.burst, Nat.cast_max, Nat.cast_one]
    cases (rates name).burstSize <;> rfl
  have hrate : ((rates name).requestsPerMinute.map requestsPerMinuteToRefillRate).getD
      l.perKeyRefillPerSecond =
        requestsPerMinuteToRefillRate ((RateCheck.key name).requestsPerMinute config rates) := by
    rw [h.rate_eq, RateCheck.requestsPerMinute]
    cases (rates name).requestsPerMinute <;> rfl
  rw [freshBucket, hcap, hrate]

/-- The bucket that a check of the key works on. -/
def bucketFor (l : RateLimiter) (rate : KeyRate) (name : String) (now : Nat) : TokenBucket :=
  (l.perKeyBuckets.get? name).getD (l.freshBucket rate now)

theorem Tracks.bucketFor_fits (hnow : now ≤ clock) (name : String) :
    (l.bucketFor (rates name) name now).Fits ((RateCheck.key name).params config rates) clock := by
  unfold bucketFor
  cases hget : l.perKeyBuckets.get? name with
  | none =>
      rw [h.freshBucket_eq]
      exact (TokenBucket.fits_new _ _ now).later hnow
  | some b => exact h.key_fits name b hget

/-- A key that has not been seen answers like a full bucket, at any reading. -/
theorem Tracks.draw_bucketFor (hnow : now ≤ clock) (name : String) :
    (l.bucketFor (rates name) name now).level.draw ((RateCheck.key name).params config rates)
        (inSeconds now) =
      (l.levelOf config rates (.key name)).draw ((RateCheck.key name).params config rates)
        (inSeconds now) := by
  have hrate := (h.bucketFor_fits hnow name).rate_nonneg
  unfold bucketFor
  cases hget : l.perKeyBuckets.get? name with
  | none =>
      rw [levelOf_unseen hget, h.freshBucket_eq]
      apply Level.draw_congr
      exact (Level.topped_full hrate rfl).trans (Level.topped_full hrate rfl).symm
  | some b => rw [levelOf_seen hget, Option.getD_some]

theorem Tracks.levelOf_sound (which : RateCheck) :
    (l.levelOf config rates which).Sound (which.params config rates) ∧
      (l.levelOf config rates which).stamp ≤ inSeconds clock := by
  cases which with
  | global => exact ⟨h.global_fits.sound, inSeconds_mono h.global_fits.lastRefill_le⟩
  | key name =>
      cases hget : l.perKeyBuckets.get? name with
      | none =>
          rw [levelOf_unseen hget]
          have hcap : 0 ≤ ((RateCheck.key name).params config rates).cap :=
            le_trans zero_le_one (le_max_right _ _)
          exact ⟨⟨hcap, le_refl _⟩, inSeconds_nonneg clock⟩
      | some b =>
          rw [levelOf_seen hget]
          have hfits := h.key_fits name b hget
          exact ⟨hfits.sound, inSeconds_mono hfits.lastRefill_le⟩

/-- What a check leaves behind at the time `clock`, when it has read the clock at `now`, maybe
before it waited for the lock: its answer is that of its own level, and of the levels only this
one is changed. -/
structure Draws (config : RateLimitConfig) (rates : String → KeyRate) (which : RateCheck)
    (clock now : Nat) (tracked : Finset String) (l : RateLimiter)
    (served : Except Nat Unit × RateLimiter) : Prop where
  tracks : served.2.Tracks config rates clock tracked
  answer : served.1.isOk =
    ((l.levelOf config rates which).draw (which.params config rates) (inSeconds now)).1
  self : served.2.levelOf config rates which =
    ((l.levelOf config rates which).draw (which.params config rates) (inSeconds now)).2
  others : ∀ other, other ≠ which →
    served.2.levelOf config rates other = l.levelOf config rates other
  evictions : served.2.perKeyEvictions = l.perKeyEvictions

theorem Tracks.drawGlobal (hnow : now ≤ clock) :
    Draws config rates .global clock now tracked l (l.checkGlobal now) where
  tracks := { h with global_fits := h.global_fits.checkLate hnow }
  answer := (TokenBucket.check_eq_draw h.global_fits).1
  self := (TokenBucket.check_eq_draw h.global_fits).2
  others := by
    intro other hother
    cases other with
    | global => exact absurd rfl hother
    | key name => rfl
  evictions := rfl

theorem Tracks.drawKey (hnow : now ≤ clock) (hname : name ∈ tracked) :
    Draws config rates (.key name) clock now tracked l
      (l.checkKeyWithOverride name (rates name).requestsPerMinute (rates name).burstSize now) := by
  have hfits := h.bucketFor_fits hnow name
  have hcheck : _ ∧ ((l.bucketFor (rates name) name now).check now).2.level = _ :=
    TokenBucket.check_eq_draw hfits
  rw [h.draw_bucketFor hnow name] at hcheck
  have hself : (l.perKeyBuckets.use name (l.freshBucket (rates name) now)
      fun b => (b.check now).2).get? name =
        some ((l.bucketFor (rates name) name now).check now).2 := Lru.get?_use_self
  have hroom := h.hasRoom hname
  constructor
  case tracks =>
    refine ⟨h.global_fits, ?_, ?_, h.card_le, h.capacity_eq, h.rate_eq⟩
    · intro other b hb
      by_cases hother : other = name
      · subst hother
        have hb' : some ((l.bucketFor (rates other) other now).check now).2 = some b :=
          hself.symm.trans hb
        rw [← Option.some.inj hb']
        exact hfits.checkLate hnow
      · exact h.key_fits other b ((Lru.get?_use_ne hroom hother).symm.trans hb)
    · intro other hmem
      rcases (Lru.mem_keys_use hroom).mp hmem with rfl | hmem
      · exact hname
      · exact h.keys_tracked other hmem
  case answer => exact hcheck.1
  case self =>
    rw [← hcheck.2]
    exact levelOf_seen hself
  case others =>
    intro other hother
    cases other with
    | global => rfl
    | key j =>
        have hj : j ≠ name := fun heq => hother (congrArg RateCheck.key heq)
        exact levelOf_congr (Lru.get?_use_ne hroom hj)
  case evictions => exact evictions_of_hasRoom hroom _ _ now

end Tracked

/-- What a check leaves behind whose reading is not old. -/
structure Serves (config : RateLimitConfig) (rates : String → KeyRate) (which : RateCheck)
    (now : Nat) (tracked : Finset String) (l : RateLimiter)
    (served : Except Nat Unit × RateLimiter) : Prop where
  tracks : served.2.Tracks config rates now tracked
  answer : served.1.isOk =
    ((l.levelOf config rates which).take (which.params config rates) (inSeconds now)).1
  self : served.2.levelOf config rates which =
    ((l.levelOf config rates which).take (which.params config rates) (inSeconds now)).2
  others : ∀ other, other ≠ which →
    served.2.levelOf config rates other = l.levelOf config rates other

theorem Draws.serves {which : RateCheck} {served : Except Nat Unit × RateLimiter}
    (h : Draws config rates which now now tracked l served)
    (htracks : l.Tracks config rates now tracked) :
    Serves config rates which now tracked l served := by
  have hdraw := Level.draw_eq_take (p := which.params config rates) (htracks.levelOf_sound which).2
  exact ⟨h.tracks, h.answer.trans (congrArg Prod.fst hdraw),
    h.self.trans (congrArg Prod.snd hdraw), h.others⟩

theorem Tracks.checkGlobal (h : l.Tracks config rates now tracked) :
    Serves config rates .global now tracked l (l.checkGlobal now) :=
  (h.drawGlobal (le_refl now)).serves h

theorem Tracks.checkKey (h : l.Tracks config rates now tracked) (hname : name ∈ tracked) :
    Serves config rates (.key name) now tracked l
      (l.checkKeyWithOverride name (rates name).requestsPerMinute (rates name).burstSize now) :=
  (h.drawKey (le_refl now) hname).serves h

theorem Tracks.perform {e : RateEvent} (h : l.Tracks config rates clock tracked)
    (hclock : clock ≤ e.now) (hamong : RateEvent.Among tracked e) :
    Serves config rates e.check e.now tracked l (l.perform rates e) := by
  have hnow := h.later hclock
  unfold RateLimiter.perform
  unfold RateEvent.Among at hamong
  cases hcheck : e.check with
  | global => exact hnow.checkGlobal
  | key name => exact hnow.checkKey (hamong name hcheck)

/-! ## The checks of one bucket -/

/-- The times of the checks of a bucket. -/
def timesOf (which : RateCheck) (events : List RateEvent) : List ℚ :=
  (events.filter fun e => e.check = which).map fun e => inSeconds e.now

/-- The same with what was answered. -/
def askedOf (rates : String → KeyRate) (which : RateCheck) (l : RateLimiter)
    (events : List RateEvent) : List (ℚ × Bool) :=
  ((events.zip (l.results rates events)).filter fun asked => asked.1.check = which).map
    fun asked => (inSeconds asked.1.now, asked.2)

variable {which : RateCheck} {events : List RateEvent}

/-- The checks of a bucket are answered as if the others were not there. -/
theorem Tracks.askedOf_eq (h : l.Tracks config rates clock tracked) (which : RateCheck)
    (hclock : (clock :: events.map RateEvent.now).IsChain (· ≤ ·))
    (hamong : ∀ e ∈ events, RateEvent.Among tracked e) :
    l.askedOf rates which events =
      (timesOf which events).zip
        ((l.levelOf config rates which).answers (which.params config rates)
          (timesOf which events)) := by
  induction events generalizing l clock with
  | nil => rfl
  | cons e later ih =>
      obtain ⟨hnow, hlater⟩ := List.isChain_cons_cons.mp hclock
      have hserves := h.perform hnow (hamong e List.mem_cons_self)
      have hrest := ih hserves.tracks hlater fun e' he' => hamong e' (List.mem_cons_of_mem e he')
      rw [askedOf, results, List.zip_cons_cons]
      by_cases hcheck : e.check = which
      · have htimes : timesOf which (e :: later) = inSeconds e.now :: timesOf which later := by
          rw [timesOf, List.filter_cons_of_pos (by simpa using hcheck), List.map_cons, timesOf]
        subst hcheck
        rw [List.filter_cons_of_pos (by simp), List.map_cons, ← askedOf, hrest, htimes,
          Level.answers, List.zip_cons_cons, hserves.answer, hserves.self]
      · have htimes : timesOf which (e :: later) = timesOf which later := by
          rw [timesOf, List.filter_cons_of_neg (by simpa using hcheck), timesOf]
        rw [List.filter_cons_of_neg (by simpa using hcheck), ← askedOf, hrest, htimes,
          hserves.others which (Ne.symm hcheck)]

theorem length_results (l : RateLimiter) (events : List RateEvent) :
    (l.results rates events).length = events.length := by
  induction events generalizing l with
  | nil => rfl
  | cons e later ih => rw [results, List.length_cons, List.length_cons, ih]

/-- A run in which only one bucket is asked. -/
theorem Tracks.results_eq (h : l.Tracks config rates clock tracked)
    (hclock : (clock :: events.map RateEvent.now).IsChain (· ≤ ·))
    (hamong : ∀ e ∈ events, RateEvent.Among tracked e) (hone : ∀ e ∈ events, e.check = which) :
    l.results rates events =
      (l.levelOf config rates which).answers (which.params config rates)
        (events.map fun e => inSeconds e.now) := by
  have htimes : timesOf which events = events.map fun e => inSeconds e.now := by
    rw [timesOf, List.filter_eq_self.mpr fun e he => decide_eq_true (hone e he)]
  have hfilter : (events.zip (l.results rates events)).filter (fun asked => asked.1.check = which) =
      events.zip (l.results rates events) :=
    List.filter_eq_self.mpr fun asked hasked =>
      decide_eq_true (hone asked.1 (List.of_mem_zip hasked).1)
  have hasked := congrArg (List.map Prod.snd) (h.askedOf_eq which hclock hamong)
  rw [askedOf, hfilter, htimes, List.map_map] at hasked
  calc l.results rates events
      = (events.zip (l.results rates events)).map Prod.snd :=
        (List.map_snd_zip (le_of_eq (length_results l events))).symm
    _ = _ := hasked
    _ = _ := List.map_snd_zip (le_of_eq (Level.length_answers _ _ _))

theorem tracks_new (hkeys : 0 < config.maxTrackedKeys) (now : Nat)
    (hcard : tracked.card ≤ config.maxTrackedKeys) :
    (new config hkeys now).Tracks config rates now tracked where
  global_fits := TokenBucket.fits_new _ _ now
  key_fits := by
    intro name b hb
    exact absurd hb (by rw [new, Lru.get?_empty]; exact Option.some_ne_none b |>.symm)
  keys_tracked := by
    intro name hname
    exact absurd hname List.not_mem_nil
  card_le := hcard
  capacity_eq := rfl
  rate_eq := rfl

/-- At first every bucket is full. -/
theorem levelOf_new (hkeys : 0 < config.maxTrackedKeys) (now : Nat) (which : RateCheck) :
    ((new config hkeys now).levelOf config rates which).tokens =
      (which.params config rates).cap := by
  cases which with
  | global => rfl
  | key name => rfl

theorem levelOf_new_zero (hkeys : 0 < config.maxTrackedKeys) (which : RateCheck) :
    (new config hkeys 0).levelOf config rates which = ⟨(which.params config rates).cap, 0⟩ := by
  cases which with
  | global => exact congrArg (Level.mk _) (zero_div _)
  | key name => rfl

end RateLimiter
end RustyGate
