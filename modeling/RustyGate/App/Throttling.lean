/-
What the layers let through.

The requests of `front` over the local limiter, which reads the clock before it waits for its
lock.  Counted since the start of the run, every authentication is paid by a pass of the check
of all requests together, and every handled request by a pass of the check of its key.  The
passes of a bucket in a stretch of a run are at most its burst and what flows into it in that
time, with the ages of the clock readings counted in.  For the keys this needs that there are
no more of them than are tracked; requests without a key cannot spoil it, since they never get
to the buckets of the keys.
-/
import RustyGate.App.Mediation

namespace RustyGate

open Effect Metering Word

/-! ## The keys and their rates -/

/-- The rate that comes with the requests of a key. -/
def KeyLimits.rate (limits : KeyLimits) : KeyRate := ⟨limits.requestsPerMinute, limits.burst⟩

def ApiKeyRow.rate (row : ApiKeyRow) : KeyRate :=
  KeyLimits.rate { requestsPerMinute := row.requestsPerMinute.map i64AsU32 }

/-- There is a row, live or not, with the id and the rate of the key. -/
def HasRow (keys : SqliteKeyStore) (key : AuthenticatedKey) : Prop :=
  ∃ row ∈ keys.apiKeys, row.id = key.id ∧ row.rate = key.limits.rate

variable {key : AuthenticatedKey} {argon : Argon2} {i now : Nat}

theorem rate_of_rowToKey {row : ApiKeyRow} (h : rowToKey row = .ok key) :
    row.rate = key.limits.rate := by
  rw [(rowToKey_eq_ok h).2]
  rfl

theorem hasRow_of_authenticate {keys : SqliteKeyStore} {rawKey : String}
    (h : keys.authenticate argon rawKey = .ok (some key)) :
    HasRow keys key := by
  cases hparse : parseKeyPrefix rawKey with
  | error e =>
      rw [SqliteKeyStore.authenticate_of_parse_error hparse] at h
      cases h
  | ok part =>
      rw [SqliteKeyStore.authenticate_of_parse hparse] at h
      cases hfound : keys.selectLive part with
      | none =>
          rw [hfound] at h
          cases h
      | some row =>
          have hread : rowToKey row = .ok key := by
            rw [hfound, Option.elim_some, SqliteKeyStore.verifiedKey] at h
            split at h
            · cases h
            · cases h
            · cases hrow : rowToKey row with
              | error e =>
                  rw [hrow] at h
                  cases h
              | ok found =>
                  rw [hrow] at h
                  cases h
                  rfl
          exact ⟨row, (SqliteKeyStore.mem_of_selectLive hfound).1,
            (rowToKey_eq_ok hread).1.symm, rate_of_rowToKey hread⟩

/-- The rates of the keys are these, and the keys are among the tracked ones. -/
structure Covers (keys : SqliteKeyStore) (rates : String → KeyRate) (tracked : Finset String) :
    Prop where
  rate_eq : ∀ row ∈ keys.apiKeys, rates row.id = row.rate
  id_mem : ∀ row ∈ keys.apiKeys, row.id ∈ tracked

/-- No row is lost or gets another id or rate. -/
def Extends (keys keys' : SqliteKeyStore) : Prop :=
  ∀ row ∈ keys.apiKeys, ∃ row' ∈ keys'.apiKeys, row'.id = row.id ∧ row'.rate = row.rate

section Keys

variable {keys keys' : SqliteKeyStore} {rates : String → KeyRate} {tracked : Finset String}

theorem Extends.refl (keys : SqliteKeyStore) : Extends keys keys :=
  fun row hrow => ⟨row, hrow, rfl, rfl⟩

theorem HasRow.of_extends (h : HasRow keys key) (hext : Extends keys keys') : HasRow keys' key := by
  obtain ⟨row, hrow, hid, hrate⟩ := h
  obtain ⟨row', hrow', hid', hrate'⟩ := hext row hrow
  exact ⟨row', hrow', hid'.trans hid, hrate'.trans hrate⟩

theorem Covers.of_extends (h : Covers keys' rates tracked) (hext : Extends keys keys') :
    Covers keys rates tracked := by
  constructor
  · intro row hrow
    obtain ⟨row', hrow', hid, hrate⟩ := hext row hrow
    rw [← hid, ← hrate]
    exact h.rate_eq row' hrow'
  · intro row hrow
    obtain ⟨row', hrow', hid, -⟩ := hext row hrow
    exact hid ▸ h.id_mem row' hrow'

theorem Covers.of_hasRow (h : Covers keys rates tracked) (hkey : HasRow keys key) :
    key.id ∈ tracked ∧ rates key.id = key.limits.rate := by
  obtain ⟨row, hrow, hid, hrate⟩ := hkey
  rw [← hid, ← hrate]
  exact ⟨h.id_mem row hrow, h.rate_eq row hrow⟩

/-- Where the ids are unique, every key has one rate. -/
theorem exists_covers (h : Table.Unique ApiKeyRow.id keys.apiKeys) :
    ∃ rates tracked, Covers keys rates tracked ∧ tracked.card ≤ keys.apiKeys.length := by
  refine ⟨fun id => ((keys.apiKeys.find? fun row => row.id = id).map ApiKeyRow.rate).getD {},
    (keys.apiKeys.map ApiKeyRow.id).toFinset, ⟨fun row hrow => ?_, fun row hrow => ?_⟩, ?_⟩
  · cases hfound : keys.apiKeys.find? fun other => other.id = row.id with
    | none => exact absurd (List.find?_eq_none.mp hfound row hrow) (by simp)
    | some found =>
        have hid : found.id = row.id := by simpa using List.find?_some hfound
        rw [h.eq (List.mem_of_find?_eq_some hfound) hrow hid]
        rfl
  · exact List.mem_toFinset.mpr (List.mem_map_of_mem hrow)
  · exact (List.toFinset_card_le _).trans_eq (List.length_map _)

theorem createKey_apiKeys (argon : Argon2) (hunique : Table.Unique ApiKeyRow.id keys.apiKeys)
    (label : String) (role : KeyRole) (limits : KeyLimits) (cacheEnabled : Bool) (draw : Draw) :
    Extends keys (keys.createKey argon label role limits cacheEnabled draw).2 ∧
      Table.Unique ApiKeyRow.id
        (keys.createKey argon label role limits cacheEnabled draw).2.apiKeys := by
  unfold SqliteKeyStore.createKey
  cases argon.hash draw.salt draw.rawKey with
  | none => exact ⟨.refl keys, hunique⟩
  | some keyHash =>
      dsimp only
      cases hwritten : keys.insertRow draw
          (newRow label role limits cacheEnabled draw keyHash) with
      | none => exact ⟨.refl keys, hunique⟩
      | some apiKeys =>
          have hinsert := (Option.ite_none_right_eq_some.mp hwritten).2
          have hnew : Table.Unique ApiKeyRow.id apiKeys := hunique.insert (by simp) hinsert
          obtain ⟨-, rfl⟩ := Table.insert_eq_some.mp hinsert
          exact ⟨fun row hrow => ⟨row, List.mem_append_left _ hrow, rfl, rfl⟩, hnew⟩

/-- The administration of the keys adds rows with new ids, and changes no id and no rate. -/
theorem perform_apiKeys (argon : Argon2) (call : KeyCall)
    (hunique : Table.Unique ApiKeyRow.id keys.apiKeys) :
    Extends keys (keys.perform argon call).2 ∧
      Table.Unique ApiKeyRow.id (keys.perform argon call).2.apiKeys := by
  cases call with
  | createKey label role limits cacheEnabled draw =>
      exact createKey_apiKeys argon hunique label role limits cacheEnabled draw
  | revokeKey id unixSeconds =>
      refine ⟨fun row hrow => ⟨_, List.mem_map_of_mem hrow, ?_⟩, hunique.update fun _ => rfl⟩
      split <;> exact ⟨rfl, rfl⟩

end Keys

/-! ## Buckets along a run -/

/-- The passes of a bucket since the world was `begun`, with the level that it has now. -/
def BucketStretch (p : Params ℚ) (begun : FrontWorld Metered) (which : RateCheck)
    (level : Level ℚ) (w : FrontWorld Metered) : Prop :=
  Stretch p (inSeconds begun.clock) level (inSeconds w.clock)
    (inSeconds (w.limits.lag which) - inSeconds (begun.limits.lag which))
    (passes which w.log - passes which begun.log)

section Buckets

variable {p : Params ℚ} {begun w w' : FrontWorld Metered} {which : RateCheck} {level : Level ℚ}

theorem bucketStretch_start (hsound : level.Sound p)
    (hstamp : level.stamp ≤ inSeconds begun.clock) :
    BucketStretch p begun which level begun := by
  unfold BucketStretch
  rw [sub_self, sub_self]
  exact .start hsound hstamp

/-- The stretch reads the clock, and of the log and the limiter what is about its bucket. -/
theorem BucketStretch.congr (h : BucketStretch p begun which level w) (hclock : w.clock ≤ w'.clock)
    (hlag : w'.limits.lag which = w.limits.lag which)
    (hpasses : passes which w'.log = passes which w.log) :
    BucketStretch p begun which level w' := by
  unfold BucketStretch
  rw [hlag, hpasses]
  exact Stretch.tick h (inSeconds_mono hclock)

theorem inSeconds_add (m n : Nat) : inSeconds (m + n) = inSeconds m + inSeconds n := by
  unfold inSeconds
  rw [Nat.cast_add]
  ring

/-- A check of the bucket with a reading of the clock. -/
theorem BucketStretch.check (h : BucketStretch p begun which level w) (hrate : 0 ≤ p.rate)
    (hnow : now ≤ w.clock) (limiter : RateLimiter) :
    BucketStretch p begun which (level.draw p (inSeconds now)).2
      ({ w with limits := w.limits.after which (w.clock - now) limiter }.note
        (.checked i which (level.draw p (inSeconds now)).1)) := by
  have hlag : inSeconds ((w.limits.after which (w.clock - now) limiter).lag which) -
      inSeconds (begun.limits.lag which) =
        inSeconds (w.limits.lag which) - inSeconds (begun.limits.lag which) +
          (inSeconds w.clock - inSeconds now) := by
    rw [Metered.lag_after, inSeconds_add, ← secondsSince_eq hnow, secondsSince]
    ring
  have hpasses : (passes which (.checked i which (level.draw p (inSeconds now)).1 :: w.log) : ℚ) -
      passes which begun.log =
        passes which w.log - passes which begun.log +
          if (level.draw p (inSeconds now)).1 = true then 1 else 0 := by
    rw [passes_cons]
    push_cast
    simp only [FrontRecord.isPass, decide_true, Bool.and_true]
    ring
  have hdraw := Stretch.draw h hrate (inSeconds_mono hnow)
  rw [← hlag, ← hpasses] at hdraw
  exact hdraw

/-- A check of another bucket. -/
theorem BucketStretch.other (h : BucketStretch p begun which level w) {asked : RateCheck}
    (hne : which ≠ asked) (i age : Nat) (accepted : Bool) (limiter : RateLimiter) :
    BucketStretch p begun which level
      ({ w with limits := w.limits.after asked age limiter }.note (.checked i asked accepted)) := by
  refine h.congr (Nat.le_refl _) (Function.update_of_ne hne _ _) ?_
  rw [FrontWorld.note, passes_cons]
  simp [FrontRecord.isPass, Ne.symm hne]

end Buckets

section Throttled

variable (config : RateLimitConfig) (begun : FrontWorld Metered)

structure GlobalMetered (w : FrontWorld Metered) : Prop where
  fits : w.limits.limiter.globalBucket.Fits (RateCheck.global.params config fun _ => {}) w.clock
  stretch : BucketStretch (RateCheck.global.params config fun _ => {}) begun .global
    w.limits.limiter.globalBucket.level w

structure KeysMetered (rates : String → KeyRate) (tracked : Finset String)
    (w : FrontWorld Metered) : Prop where
  tracks : w.limits.limiter.Tracks config rates w.clock tracked
  evictions : w.limits.limiter.perKeyEvictions = 0
  stretch : ∀ which, BucketStretch (which.params config rates) begun which
    (w.limits.limiter.levelOf config rates which) w

/-- The buckets of the keys are right for all rates that agree with the rows there are, so that
a later row makes no difference. -/
structure Throttled (w : FrontWorld Metered) : Prop where
  unique : Table.Unique ApiKeyRow.id w.keys.apiKeys
  global : GlobalMetered config begun w
  keys : ∀ rates tracked, Covers w.keys rates tracked → tracked.card ≤ config.maxTrackedKeys →
    KeysMetered config begun rates tracked w

variable {config begun} {w w' : FrontWorld Metered}

theorem GlobalMetered.congr (h : GlobalMetered config begun w) (hclock : w.clock ≤ w'.clock)
    (hlimits : w'.limits = w.limits) (hpasses : passes .global w'.log = passes .global w.log) :
    GlobalMetered config begun w' := by
  refine ⟨?_, ?_⟩
  · rw [hlimits]
    exact h.fits.later hclock
  · rw [hlimits]
    exact h.stretch.congr hclock (by rw [hlimits]) hpasses

variable {rates : String → KeyRate} {tracked : Finset String}

theorem KeysMetered.congr (h : KeysMetered config begun rates tracked w)
    (hclock : w.clock ≤ w'.clock) (hlimits : w'.limits = w.limits)
    (hpasses : ∀ which, passes which w'.log = passes which w.log) :
    KeysMetered config begun rates tracked w' := by
  refine ⟨?_, ?_, fun which => ?_⟩
  · rw [hlimits]
    exact h.tracks.later hclock
  · rw [hlimits]
    exact h.evictions
  · rw [hlimits]
    exact (h.stretch which).congr hclock (by rw [hlimits]) (hpasses which)

/-- A step that leaves the limiter alone and logs no check. -/
theorem Throttled.congr (h : Throttled config begun w) (hclock : w.clock ≤ w'.clock)
    (hlimits : w'.limits = w.limits) (hpasses : ∀ which, passes which w'.log = passes which w.log)
    (hunique : Table.Unique ApiKeyRow.id w'.keys.apiKeys) (hext : Extends w.keys w'.keys) :
    Throttled config begun w' :=
  ⟨hunique, h.global.congr hclock hlimits (hpasses .global), fun rates tracked hcovers hcard =>
    (h.keys rates tracked (hcovers.of_extends hext) hcard).congr hclock hlimits hpasses⟩

theorem Throttled.note (h : Throttled config begun w) {record : FrontRecord}
    (hpass : ∀ which, record.isPass which = false) : Throttled config begun (w.note record) := by
  refine h.congr (Nat.le_refl _) rfl (fun which => ?_) h.unique (.refl w.keys)
  rw [FrontWorld.note, passes_cons, hpass which]
  rfl

/-- A check as the limiter answers it, of any bucket. -/
theorem KeysMetered.check (h : KeysMetered config begun rates tracked w) {which : RateCheck}
    {served : Except Nat Unit × RateLimiter} (hnow : now ≤ w.clock)
    (hdraws : RateLimiter.Draws config rates which w.clock now tracked w.limits.limiter served) :
    KeysMetered config begun rates tracked
      ({ w with limits := w.limits.after which (w.clock - now) served.2 }.note
        (.checked i which served.1.isOk)) := by
  refine ⟨hdraws.tracks, hdraws.evictions.trans h.evictions, fun asked => ?_⟩
  show BucketStretch _ _ _ (served.2.levelOf config rates asked) _
  by_cases hasked : asked = which
  · subst hasked
    have hrate : 0 ≤ (asked.params config rates).rate := le_trans (by norm_num) (le_max_right _ _)
    rw [hdraws.self, hdraws.answer]
    exact (h.stretch asked).check hrate hnow served.2
  · rw [hdraws.others asked hasked]
    exact (h.stretch asked).other hasked ..

theorem Throttled.checkGlobal (h : Throttled config begun w) (hnow : now ≤ w.clock) :
    Throttled config begun
      ({ w with limits := w.limits.after .global (w.clock - now)
                  (w.limits.limiter.checkGlobal now).2 }.note
        (.checked i .global (w.limits.limiter.checkGlobal now).1.isOk)) := by
  refine ⟨h.unique, ⟨h.global.fits.checkLate hnow, ?_⟩, fun rates tracked hcovers hcard => ?_⟩
  · have hdraw : (w.limits.limiter.globalBucket.check now).1.isOk = _ ∧ _ :=
      TokenBucket.check_eq_draw h.global.fits
    show BucketStretch _ _ _ (w.limits.limiter.globalBucket.check now).2.level
      ({ w with limits := _ }.note
        (.checked i .global (w.limits.limiter.globalBucket.check now).1.isOk))
    rw [hdraw.1, hdraw.2]
    exact h.global.stretch.check h.global.fits.rate_nonneg hnow _
  · have hkeys := h.keys rates tracked hcovers hcard
    exact hkeys.check hnow (hkeys.tracks.drawGlobal hnow)

theorem Throttled.checkKey (h : Throttled config begun w) (hnow : now ≤ w.clock)
    (hkey : HasRow w.keys key) :
    Throttled config begun
      ({ w with limits := w.limits.after (.key key.id) (w.clock - now)
                  (w.limits.limiter.checkKeyWithOverride key.id key.limits.requestsPerMinute
                    key.limits.burst now).2 }.note
        (.checked i (.key key.id)
          (w.limits.limiter.checkKeyWithOverride key.id key.limits.requestsPerMinute
            key.limits.burst now).1.isOk)) := by
  refine ⟨h.unique, ⟨h.global.fits, ?_⟩, fun rates tracked hcovers hcard => ?_⟩
  · exact h.global.stretch.other (by simp) ..
  · obtain ⟨hmem, hrate⟩ := hcovers.of_hasRow hkey
    have hkeys := h.keys rates tracked hcovers hcard
    have hdraws := hkeys.tracks.drawKey hnow hmem
    rw [hrate] at hdraws
    exact hkeys.check hnow hdraws

/-- The key that a request in the phase has brought is one of the rows. -/
def FrontPhase.HasKey (keys : SqliteKeyStore) : FrontPhase → Prop
  | .arrived | .limited | .ended => True
  | .known _ key | .withinQuota _ key | .admitted _ key => HasRow keys key

theorem FrontPhase.HasKey.of_extends {keys keys' : SqliteKeyStore} {phase : FrontPhase}
    (h : phase.HasKey keys) (hext : Extends keys keys') : phase.HasKey keys' := by
  cases phase with
  | arrived | limited | ended => trivial
  | known | withinQuota | admitted => exact HasRow.of_extends h hext

theorem FrontPhase.hasKey_passing {ε : Type} {keys : SqliteKeyStore} (phase : FrontPhase)
    (answer : Except ε Unit) (h : phase.HasKey keys) : (phase.passing answer).HasKey keys := by
  cases answer with
  | error _ => trivial
  | ok _ => exact h

theorem FrontWorld.Moves.throttled {i : Nat} {phase phase' : FrontPhase}
    (h : w.Moves argon Metered.backend i phase w' phase') (hw : Throttled config begun w)
    (hkey : phase.HasKey w.keys) :
    Throttled config begun w' ∧ phase'.HasKey w'.keys := by
  cases h with
  | newV4 => exact ⟨hw, hkey⟩
  | checkGlobal hcheck =>
      obtain ⟨now, hnow, rfl, rfl⟩ := hcheck
      rw [Metered.isOk_reply]
      exact ⟨hw.checkGlobal hnow, FrontPhase.hasKey_passing .limited _ trivial⟩
  | refuse rawKey => exact ⟨hw.note fun _ => rfl, trivial⟩
  | authenticate hauth => exact ⟨hw.note fun _ => rfl, hasRow_of_authenticate hauth⟩
  | checkQuota rawKey key answer =>
      exact ⟨hw.note fun _ => rfl,
        FrontPhase.hasKey_passing (.withinQuota rawKey key) answer hkey⟩
  | @checkKey rawKey key answer limits hcheck =>
      obtain ⟨now, hnow, rfl, rfl⟩ := hcheck
      rw [Metered.isOk_reply]
      exact ⟨hw.checkKey hnow hkey, FrontPhase.hasKey_passing (.admitted rawKey key) _ hkey⟩
  | handle hadmits => exact ⟨hw.note fun _ => rfl, trivial⟩

theorem FrontWorld.Ambient.throttled (h : w.Ambient argon Metered.backend w')
    (hw : Throttled config begun w) :
    Throttled config begun w' ∧ Extends w.keys w'.keys := by
  have hsame := Extends.refl w.keys
  cases h with
  | tick ht => exact ⟨hw.congr ht rfl (fun _ => rfl) hw.unique hsame, hsame⟩
  | limits hl =>
      cases hl
      exact ⟨hw, hsame⟩
  | keys call =>
      obtain ⟨hext, hunique⟩ := perform_apiKeys argon call hw.unique
      exact ⟨hw.congr (Nat.le_refl _) rfl (fun _ => rfl) hunique hext, hext⟩
  | usage rows => exact ⟨hw.congr (Nat.le_refl _) rfl (fun _ => rfl) hw.unique hsame, hsame⟩

theorem front_throttled (ρ : Type) (argon : Argon2) (parseUuid : String → Option Uuid) :
    (front ρ argon Metered.backend parseUuid).Keeps (fun _ => True) (Throttled config begun)
      (fun w _ phase => phase.HasKey w.keys) where
  start _ := trivial
  act _ hw hkey hexec hwatch := (FrontWorld.moves_of_exec hexec hwatch).throttled hw hkey
  others _ hexec _ _ hkey := by
    rw [(FrontWorld.frame_of_exec hexec).1]
    exact hkey
  leave hw := ⟨hw, fun _ => id⟩
  cancel hw := ⟨hw, fun _ => id⟩
  ambient h hw := by
    obtain ⟨hw', hext⟩ := h.throttled hw
    exact ⟨hw', fun hkey => hkey.of_extends hext⟩

/-! ## The bounds -/

theorem throttled_start (h : KeysMetered config begun rates tracked w) :
    KeysMetered config w rates tracked w :=
  ⟨h.tracks, h.evictions, fun which =>
    bucketStretch_start (h.tracks.levelOf_sound which).1 (h.tracks.levelOf_sound which).2⟩

/-- A stretch may begin at any moment. -/
theorem Throttled.begin (h : Throttled config begun w) : Throttled config w w :=
  ⟨h.unique,
    ⟨h.global.fits, bucketStretch_start h.global.fits.sound
      (inSeconds_mono h.global.fits.lastRefill_le)⟩,
    fun rates tracked hcovers hcard => throttled_start (h.keys rates tracked hcovers hcard)⟩

theorem throttled_idle (ρ : Type) (hkeys : 0 < config.maxTrackedKeys) (created : Nat) :
    Throttled config (meteredFront ρ config hkeys created).world
      (meteredFront ρ config hkeys created).world := by
  have hfits : (RateLimiter.new config hkeys created).globalBucket.Fits
      (RateCheck.global.params config fun _ => {}) created := TokenBucket.fits_new _ _ created
  refine ⟨Table.unique_nil, ⟨hfits, bucketStretch_start hfits.sound (le_refl _)⟩,
    fun rates tracked _ hcard => ?_⟩
  have htracks : (RateLimiter.new config hkeys created).Tracks config rates created tracked :=
    RateLimiter.tracks_new hkeys created hcard
  exact ⟨htracks, rfl, fun which =>
    bucketStretch_start (htracks.levelOf_sound which).1 (htracks.levelOf_sound which).2⟩

/-- The passes of a bucket that a stretch of a run allows. -/
def allowance (p : Params ℚ) (which : RateCheck) (x y : FrontWorld Metered) : ℚ :=
  p.cap + (inSeconds y.clock - inSeconds x.clock +
    (inSeconds (y.limits.lag which) - inSeconds (x.limits.lag which))) * p.rate

theorem BucketStretch.passes_le {p : Params ℚ} {which : RateCheck} {level : Level ℚ}
    (h : BucketStretch p begun which level w) (hrate : 0 ≤ p.rate) :
    (passes which w.log : ℚ) ≤ passes which begun.log + allowance p which begun w := by
  have hle := Stretch.granted_le h hrate
  unfold allowance
  linarith

/-- What a stretch of a run lets through.  Lookups and handlings are compared with the passes
since the start.  The bounds for the keys need that there are no more of them, live or revoked,
than are tracked. -/
structure LetsThrough (config : RateLimitConfig) (x y : FrontWorld Metered) : Prop where
  attempts_le : attempts y.log ≤ passes .global y.log
  global_le : (passes .global y.log : ℚ) ≤ passes .global x.log +
    allowance (RateCheck.global.params config fun _ => {}) .global x y
  handlings_le : ∀ id, handlings id y.log ≤ passes (.key id) y.log
  key_le : y.keys.apiKeys.length ≤ config.maxTrackedKeys → ∀ row ∈ y.keys.apiKeys,
    (passes (.key row.id) y.log : ℚ) ≤ passes (.key row.id) x.log +
      allowance ((RateCheck.key row.id).params config fun _ => row.rate) (.key row.id) x y
  not_evicted : y.keys.apiKeys.length ≤ config.maxTrackedKeys →
    y.limits.limiter.perKeyEvictions = 0

theorem Throttled.letsThrough (h : Throttled config begun w)
    (hattempts : attempts w.log ≤ passes .global w.log)
    (hhandlings : ∀ id, handlings id w.log ≤ passes (.key id) w.log) :
    LetsThrough config begun w := by
  obtain ⟨rates, tracked, hcovers, hcard⟩ := exists_covers h.unique
  constructor
  case attempts_le => exact hattempts
  case handlings_le => exact hhandlings
  case global_le => exact h.global.stretch.passes_le h.global.fits.rate_nonneg
  case key_le =>
    intro hroom row hrow
    have hkeys := h.keys rates tracked hcovers (hcard.trans hroom)
    have hparams : (RateCheck.key row.id).params config rates =
        (RateCheck.key row.id).params config fun _ => row.rate := by
      simp only [RateCheck.params, RateCheck.burst, RateCheck.requestsPerMinute,
        hcovers.rate_eq row hrow]
    have hstretch := hkeys.stretch (.key row.id)
    rw [hparams] at hstretch
    exact hstretch.passes_le (le_trans (by norm_num) (le_max_right _ _))
  case not_evicted =>
    intro hroom
    exact (h.keys rates tracked hcovers (hcard.trans hroom)).evictions

/-- In every stretch of every run, however the requests and the administration of the keys are
interleaved. -/
theorem requests_throttled {ρ : Type} {parseUuid : String → Option Uuid}
    {C : Pool (FrontAns ρ) FrontPhase (FrontWorld Metered) → Label (FrontAns ρ) → Prop}
    (hkeys : 0 < config.maxTrackedKeys) {created : Nat}
    {x y : Pool (FrontAns ρ) FrontPhase (FrontWorld Metered)}
    (hx : Reaches (front ρ argon Metered.backend parseUuid) C (meteredFront ρ config hkeys created)
      x) (hy : Reaches (front ρ argon Metered.backend parseUuid) C x y) :
    LetsThrough config x.world y.world := by
  have hprog : ∀ p, (front ρ argon Metered.backend parseUuid).programs p →
      p.Follows FrontPhase.watch (fun _ _ => True) .arrived := fun p hp => front_programs_follow hp
  have hphased : x.Phased (front ρ argon Metered.backend parseUuid) :=
    hx.phased hprog (Pool.phased_nil _ _)
  obtain ⟨hbefore, hheld⟩ := hx.keeps_nil (front_throttled ρ argon parseUuid) hprog
    (throttled_idle ρ hkeys created)
  obtain ⟨hafter, -⟩ := hy.keeps (front_throttled ρ argon parseUuid) hprog
    (fun p _ => p.performs_true) hphased (fun _ _ p _ => p.performs_true) hbefore.begin hheld
  refine hafter.letsThrough ?_ fun id => ?_
  · have hx' := hx.budget front_spends_global hprog (Pool.phased_nil _ _) (Nat.le_refl 0)
    have hy' := hy.budget front_spends_global hprog hphased hx'
    exact (Nat.le_add_right _ _).trans hy'
  · have hx' := hx.budget (front_spends_key id) hprog (Pool.phased_nil _ _) (Nat.le_refl 0)
    have hy' := hy.budget (front_spends_key id) hprog hphased hx'
    exact (Nat.le_add_right _ _).trans hy'

end Throttled

theorem requests_throttled_models : ∃ x,
    Reaches (front Unit .plain Metered.backend fun _ => none) (fun _ _ => True) modelsStart x ∧
      .handled 0 modelsHandled ∈ x.world.log ∧
      LetsThrough modelsConfig modelsStart.world x.world := by
  obtain ⟨x, hreach, hmem⟩ := models_reached
  exact ⟨x, hreach, hmem, requests_throttled Nat.one_pos .refl hreach⟩

end RustyGate
