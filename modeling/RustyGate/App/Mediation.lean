/-
Requests on their way to the handlers, side by side.

Any number of requests pass the layers while keys are created and revoked and usage is
recorded.  The limiter is any pair of checks over a state of its own, and may answer as it
likes.  The log has what was asked, with the request that asked it.

`Due` says what must have come before an entry, by the same request: the layers are the only
way to a handler, and every entry on the way is about the key that the request carries, which
is one that was in force when it was looked up.
-/
import RustyGate.App.Middleware
import RustyGate.Auth.Lifecycle
import RustyGate.Collections.Log
import RustyGate.RateLimit.Runs

namespace RustyGate

open Effect History

/-- The checks of a limiter at some time, with their answer and what they leave, and what
happens to it from outside. -/
structure RateLimitBackend (L : Type) where
  checkGlobal : Nat → L → Except UInt64 Unit → L → Prop
  checkKey : Nat → L → String → Option UInt32 → Option UInt32 → Except UInt64 Unit → L → Prop
  ambient : L → L → Prop

inductive FrontRecord where
  | administered (event : KeyEvent)
  | checked (i : Nat) (which : RateCheck) (accepted : Bool)
  | tried (i : Nat) (rawKey : String) (found : Option AuthenticatedKey)
  | quota (i : Nat) (key : AuthenticatedKey) (accepted : Bool)
  | handled (i : Nat) (request : HttpRequest)
  deriving DecidableEq

structure FrontWorld (L : Type) where
  clock : Nat
  limits : L
  keys : SqliteKeyStore
  /-- The newest entry first. -/
  log : List FrontRecord

/-- The key that an answer of the store is about. -/
def foundKey : Except AuthError (Option AuthenticatedKey) → Option AuthenticatedKey
  | .ok found => found
  | .error _ => none

namespace FrontWorld

variable {L ρ : Type} (argon : Argon2) (backend : RateLimitBackend L) (w : FrontWorld L)

@[simp] def note (record : FrontRecord) : FrontWorld L := { w with log := record :: w.log }

/-- An operation of request `i`, with its answer and the world behind it.  The database may
fail at any time. -/
def exec (i : Nat) : (o : FrontOp) → FrontAns ρ o → FrontWorld L → Prop
  | .newV4, _, w' => w' = w
  | .checkGlobal, answer, w' => ∃ limits,
      backend.checkGlobal w.clock w.limits answer limits ∧
        w' = { w with limits := limits }.note (.checked i .global answer.isOk)
  | .checkKey apiKey requestsPerMinute burstSize, answer, w' => ∃ limits,
      backend.checkKey w.clock w.limits apiKey requestsPerMinute burstSize answer limits ∧
        w' = { w with limits := limits }.note (.checked i (.key apiKey) answer.isOk)
  | .authenticate rawKey, answer, w' =>
      (answer = w.keys.authenticate argon rawKey ∨ ∃ error, answer = .error error) ∧
        w' = w.note (.tried i rawKey (foundKey answer))
  | .checkQuota key, answer, w' =>
      (∃ unixSeconds, answer = w.keys.checkQuota key unixSeconds ∨
        answer = .error ⟨secondsUntilNextDay unixSeconds⟩) ∧
        w' = w.note (.quota i key answer.isOk)
  | .handle request, _, w' => w' = w.note (.handled i request)

/-- What happens outside the layers. -/
inductive Ambient : FrontWorld L → Prop
  | tick {t : Nat} (ht : w.clock ≤ t) : Ambient { w with clock := t }
  | limits {limits : L} (h : backend.ambient w.limits limits) : Ambient { w with limits := limits }
  | keys (call : KeyCall) :
      Ambient ({ w with keys := (w.keys.perform argon call).2 }.note
        (.administered (w.keys.perform argon call).1))
  | usage (rows : List UsageRow) :
      Ambient { w with keys := { w.keys with apiKeyUsageDaily := rows } }

/-- What an operation of request `i` can do to the world and to its phase. -/
inductive Moves (i : Nat) : FrontPhase → FrontWorld L → FrontPhase → Prop
  | newV4 (phase : FrontPhase) : Moves i phase w phase
  | checkGlobal {answer : Except UInt64 Unit} {limits : L}
      (h : backend.checkGlobal w.clock w.limits answer limits) :
      Moves i .arrived ({ w with limits := limits }.note (.checked i .global answer.isOk))
        (.passing .limited answer)
  | refuse (rawKey : String) : Moves i .limited (w.note (.tried i rawKey none)) .ended
  | authenticate {rawKey : String} {key : AuthenticatedKey}
      (h : w.keys.authenticate argon rawKey = .ok (some key)) :
      Moves i .limited (w.note (.tried i rawKey (some key))) (.known rawKey key)
  | checkQuota (rawKey : String) (key : AuthenticatedKey) (answer : Except QuotaRejection Unit) :
      Moves i (.known rawKey key) (w.note (.quota i key answer.isOk))
        (.passing (.withinQuota rawKey key) answer)
  | checkKey (rawKey : String) {key : AuthenticatedKey} {answer : Except UInt64 Unit} {limits : L}
      (h : backend.checkKey w.clock w.limits key.id key.limits.requestsPerMinute key.limits.burst
        answer limits) :
      Moves i (.withinQuota rawKey key)
        ({ w with limits := limits }.note (.checked i (.key key.id) answer.isOk))
        (.passing (.admitted rawKey key) answer)
  | handle {rawKey : String} {key : AuthenticatedKey} {request : HttpRequest}
      (h : request.Admits rawKey key) :
      Moves i (.admitted rawKey key) (w.note (.handled i request)) .ended

variable {argon backend w}

theorem moves_of_exec {i : Nat} {o : FrontOp} {answer : FrontAns ρ o} {w' : FrontWorld L}
    {phase phase' : FrontPhase} (hexec : w.exec argon backend i o answer w')
    (hwatch : FrontPhase.watch phase o answer = some phase') :
    w.Moves argon backend i phase w' phase' := by
  cases o with
  | newV4 =>
      obtain rfl := hexec
      cases phase <;> cases hwatch <;> exact .newV4 _
  | checkGlobal =>
      obtain ⟨limits, hcheck, rfl⟩ := hexec
      cases phase <;> cases hwatch
      exact .checkGlobal hcheck
  | authenticate rawKey =>
      obtain ⟨hanswer, rfl⟩ := hexec
      cases phase <;> try cases hwatch
      match answer with
      | .error _ | .ok none =>
          cases hwatch
          exact .refuse rawKey
      | .ok (some key) =>
          cases hwatch
          rcases hanswer with hanswer | ⟨_, hanswer⟩
          · exact .authenticate hanswer.symm
          · cases hanswer
  | checkQuota asked =>
      obtain ⟨-, rfl⟩ := hexec
      cases phase <;> try cases hwatch
      obtain ⟨rfl, hphase⟩ := Option.ite_none_right_eq_some.mp hwatch
      cases hphase
      exact .checkQuota _ _ answer
  | checkKey apiKey requestsPerMinute burstSize =>
      obtain ⟨limits, hcheck, rfl⟩ := hexec
      cases phase <;> try cases hwatch
      obtain ⟨⟨rfl, rfl, rfl⟩, hphase⟩ := Option.ite_none_right_eq_some.mp hwatch
      cases hphase
      exact .checkKey _ hcheck
  | handle request =>
      obtain rfl := hexec
      cases phase <;> try cases hwatch
      obtain ⟨hadmits, hphase⟩ := Option.ite_none_right_eq_some.mp hwatch
      cases hphase
      exact .handle hadmits

end FrontWorld

/-- The operations that wait for something outside the process. -/
def FrontOp.awaits : FrontOp → Bool
  | .newV4 => false
  | _ => true

/-- Requests to the protected routes. -/
def front {L : Type} (ρ : Type) (argon : Argon2) (backend : RateLimitBackend L)
    (parseUuid : String → Option Uuid) : Setting (FrontAns ρ) FrontPhase (FrontWorld L) where
  exec i w := w.exec argon backend i
  awaits := FrontOp.awaits
  leave _ w := w
  cancel _ w := w
  ambient w := w.Ambient argon backend
  watch := FrontPhase.watch
  start := .arrived
  done _ := True
  programs p := ∃ request, p = (protectedRoute parseUuid request).bind fun _ => .ret ()

/-! ## The local limiter -/

/-- The local limiter, and for every bucket the sum of the ages, in nanoseconds, that the
clock readings of its checks had when they were used. -/
structure Metered where
  limiter : RateLimiter
  lag : RateCheck → Nat

namespace Metered

def new (config : RateLimitConfig) (hkeys : 0 < config.maxTrackedKeys) (now : Nat) : Metered where
  limiter := .new config hkeys now
  lag _ := 0

/-- After a check of a bucket with a reading of some age. -/
def after (m : Metered) (which : RateCheck) (age : Nat) (limiter : RateLimiter) : Metered where
  limiter := limiter
  lag := Function.update m.lag which (m.lag which + age)

theorem lag_after (m : Metered) (which : RateCheck) (age : Nat) (limiter : RateLimiter) :
    (m.after which age limiter).lag which = m.lag which + age :=
  Function.update_self ..

/-- The limiter's answer as the trait has it. -/
def reply : Except Nat Unit → Except UInt64 Unit
  | .ok _ => .ok ()
  | .error retryAfterSeconds => .error (.ofNat retryAfterSeconds)

/-- `RateLimiter` as the backend.  The reading of a check is any time that has passed. -/
def backend : RateLimitBackend Metered where
  checkGlobal clock m answer m' := ∃ now ≤ clock,
    answer = reply (m.limiter.checkGlobal now).1 ∧
      m' = m.after .global (clock - now) (m.limiter.checkGlobal now).2
  checkKey clock m apiKey requestsPerMinute burstSize answer m' := ∃ now ≤ clock,
    answer = reply (m.limiter.checkKeyWithOverride apiKey requestsPerMinute burstSize now).1 ∧
      m' = m.after (.key apiKey) (clock - now)
        (m.limiter.checkKeyWithOverride apiKey requestsPerMinute burstSize now).2
  ambient m m' := m' = m

theorem isOk_reply (answer : Except Nat Unit) : (reply answer).isOk = answer.isOk := by
  cases answer <;> rfl

end Metered

/-! ## What has come before -/

/-- The changes to the keys, in their order. -/
def keyEvents (log : List FrontRecord) : List KeyEvent :=
  (log.filterMap fun
    | .administered event => some event
    | _ => none).reverse

/-- The key was in force when the request was found to carry it, and the check of all requests
together had let the request pass. -/
def Known (i : Nat) (rawKey : String) (key : AuthenticatedKey) : List FrontRecord → Prop :=
  Past (.tried i rawKey (some key)) fun early =>
    .checked i .global true ∈ early ∧ (rawKey, key) ∈ inForce (keyEvents early)

def WithinQuota (i : Nat) (rawKey : String) (key : AuthenticatedKey) :
    List FrontRecord → Prop :=
  Past (.quota i key true) (Known i rawKey key)

def Admitted (i : Nat) (rawKey : String) (key : AuthenticatedKey) : List FrontRecord → Prop :=
  Past (.checked i (.key key.id) true) (WithinQuota i rawKey key)

/-- What must have come before an entry. -/
def Due (log : List FrontRecord) : FrontRecord → Prop
  | .administered _ | .checked _ .global _ => True
  | .tried i _ _ => .checked i .global true ∈ log
  | .quota i key _ => ∃ rawKey, Known i rawKey key log
  | .checked i (.key apiKey) _ => ∃ rawKey key, key.id = apiKey ∧ WithinQuota i rawKey key log
  | .handled i request => ∃ rawKey key, request.Admits rawKey key ∧ Admitted i rawKey key log

/-- What a request in a phase has behind it. -/
def FrontPhase.Trail (log : List FrontRecord) (i : Nat) : FrontPhase → Prop
  | .arrived | .ended => True
  | .limited => .checked i .global true ∈ log
  | .known rawKey key => Known i rawKey key log
  | .withinQuota rawKey key => WithinQuota i rawKey key log
  | .admitted rawKey key => Admitted i rawKey key log

theorem FrontPhase.Trail.later {log : List FrontRecord} {i : Nat} {phase : FrontPhase}
    (h : phase.Trail log i) (record : FrontRecord) : phase.Trail (record :: log) i := by
  cases phase with
  | arrived | ended => trivial
  | limited => exact List.mem_cons_of_mem _ h
  | known | withinQuota | admitted => exact Past.later h [record]

theorem keyEvents_administered (event : KeyEvent) (log : List FrontRecord) :
    keyEvents (.administered event :: log) = keyEvents log ++ [event] := by
  rw [keyEvents, List.filterMap_cons, List.reverse_cons, keyEvents]

/-! ## Every step is due -/

namespace FrontWorld

variable {L ρ : Type} {argon : Argon2} {backend : RateLimitBackend L} {w w' : FrontWorld L}

structure Mediated (argon : Argon2) (w : FrontWorld L) : Prop where
  tracks : w.keys.Tracks argon (inForce (keyEvents w.log))
  orderly : Orderly Due w.log

theorem Mediated.note (h : w.Mediated argon) {record : FrontRecord}
    (hkeys : keyEvents (record :: w.log) = keyEvents w.log) (hdue : Due w.log record) :
    (w.note record).Mediated argon := by
  refine ⟨?_, h.orderly.cons hdue⟩
  show w.keys.Tracks argon (inForce (keyEvents (record :: w.log)))
  rw [hkeys]
  exact h.tracks

/-- The limiter has no part in it. -/
theorem Mediated.withLimits (h : w.Mediated argon) (limits : L) :
    { w with limits := limits }.Mediated argon := ⟨h.tracks, h.orderly⟩

theorem Ambient.mediated (h : w.Ambient argon backend w') (hw : w.Mediated argon) :
    w'.Mediated argon := by
  cases h with
  | tick ht => exact ⟨hw.tracks, hw.orderly⟩
  | limits hl => exact hw.withLimits _
  | keys call =>
      refine ⟨?_, hw.orderly.cons trivial⟩
      have htracks := hw.tracks.perform call
      show SqliteKeyStore.Tracks argon _ (inForce (keyEvents (.administered _ :: w.log)))
      rw [keyEvents_administered, inForce, List.foldl_append]
      exact htracks
  | usage rows => exact ⟨⟨hw.tracks.unique, hw.tracks.row_of, hw.tracks.entry_of⟩, hw.orderly⟩

/-- A step of a request is due, and so is the next one. -/
theorem Moves.mediated (hargon : argon.Exact) {i : Nat} {phase phase' : FrontPhase}
    (h : w.Moves argon backend i phase w' phase') (hw : w.Mediated argon)
    (htrail : phase.Trail w.log i) : w'.Mediated argon ∧ phase'.Trail w'.log i := by
  cases h with
  | newV4 => exact ⟨hw, htrail⟩
  | @checkGlobal answer limits hcheck =>
      refine ⟨(hw.withLimits limits).note rfl trivial, ?_⟩
      cases answer with
      | error _ => trivial
      | ok _ => exact List.mem_cons_self
  | refuse rawKey => exact ⟨hw.note rfl htrail, trivial⟩
  | authenticate hauth =>
      exact ⟨hw.note rfl htrail,
        Past.now ⟨htrail, SqliteKeyStore.mem_of_authenticate hargon hw.tracks hauth⟩⟩
  | checkQuota rawKey key answer =>
      refine ⟨hw.note rfl ⟨rawKey, htrail⟩, ?_⟩
      cases answer with
      | error _ => trivial
      | ok _ => exact Past.now htrail
  | @checkKey rawKey key answer limits hcheck =>
      refine ⟨(hw.withLimits limits).note rfl ⟨rawKey, key, rfl, htrail⟩, ?_⟩
      cases answer with
      | error _ => trivial
      | ok _ => exact Past.now htrail
  | handle hadmits => exact ⟨hw.note rfl ⟨_, _, hadmits, htrail⟩, trivial⟩

/-- The operations of a request leave the keys as they are, and log at most one entry. -/
theorem frame_of_exec {i : Nat} {o : FrontOp} {answer : FrontAns ρ o}
    (h : w.exec argon backend i o answer w') :
    w'.keys = w.keys ∧ (w'.log = w.log ∨ ∃ record, w'.log = record :: w.log) := by
  cases o with
  | newV4 =>
      obtain rfl := h
      exact ⟨rfl, Or.inl rfl⟩
  | checkGlobal | checkKey =>
      obtain ⟨limits, -, rfl⟩ := h
      exact ⟨rfl, Or.inr ⟨_, rfl⟩⟩
  | authenticate | checkQuota =>
      obtain ⟨-, rfl⟩ := h
      exact ⟨rfl, Or.inr ⟨_, rfl⟩⟩
  | handle =>
      obtain rfl := h
      exact ⟨rfl, Or.inr ⟨_, rfl⟩⟩

theorem trail_of_exec {i j : Nat} {o : FrontOp} {answer : FrontAns ρ o} {phase : FrontPhase}
    (hexec : w.exec argon backend i o answer w') (h : phase.Trail w.log j) :
    phase.Trail w'.log j := by
  rcases (frame_of_exec hexec).2 with hlog | ⟨record, hlog⟩
  · rw [hlog]
    exact h
  · rw [hlog]
    exact h.later record

theorem trail_of_ambient {j : Nat} {phase : FrontPhase} (h : w.Ambient argon backend w')
    (htrail : phase.Trail w.log j) : phase.Trail w'.log j := by
  cases h with
  | keys call => exact htrail.later _
  | tick | limits | usage => exact htrail

end FrontWorld

section Front

variable {L ρ : Type} {argon : Argon2} {backend : RateLimitBackend L}
  {parseUuid : String → Option Uuid}

theorem front_programs_follow {p : Program FrontOp (FrontAns ρ) Unit}
    (hp : (front ρ argon backend parseUuid).programs p) :
    p.Follows FrontPhase.watch (fun _ _ => True) .arrived := by
  obtain ⟨request, rfl⟩ := hp
  exact (protectedRoute_keepsOrder parseUuid request).bind fun _ _ _ => trivial

theorem front_keeps (hargon : argon.Exact) :
    (front ρ argon backend parseUuid).Keeps (fun _ => True) (FrontWorld.Mediated argon)
      (fun w i phase => phase.Trail w.log i) where
  start _ := trivial
  act _ hw htrail hexec hwatch :=
    (FrontWorld.moves_of_exec hexec hwatch).mediated hargon hw htrail
  others _ hexec _ _ htrail := FrontWorld.trail_of_exec hexec htrail
  leave hw := ⟨hw, fun _ => id⟩
  cancel hw := ⟨hw, fun _ => id⟩
  ambient h hw := ⟨h.mediated hw, FrontWorld.trail_of_ambient h⟩

/-- A gateway without keys, before the first request. -/
def idleFront (ρ : Type) {L : Type} (clock : Nat) (limits : L) :
    Pool (FrontAns ρ) FrontPhase (FrontWorld L) where
  threads := []
  world := { clock, limits, keys := {}, log := [] }

/-- A gateway with a new limiter. -/
def meteredFront (ρ : Type) (config : RateLimitConfig) (hkeys : 0 < config.maxTrackedKeys)
    (created : Nat) : Pool (FrontAns ρ) FrontPhase (FrontWorld Metered) :=
  idleFront ρ created (.new config hkeys created)

/-- However the requests and the administration of the keys are interleaved, and whatever the
limiter answers, every entry of the log was due: a handler is reached only with a key that was
in force when it was looked up, allows the path, and has passed the checks of the layers in
their order. -/
theorem requests_mediated (hargon : argon.Exact) {C : Pool (FrontAns ρ) FrontPhase (FrontWorld L) →
      Label (FrontAns ρ) → Prop} {clock : Nat} {limits : L}
    {x : Pool (FrontAns ρ) FrontPhase (FrontWorld L)}
    (h : Reaches (front ρ argon backend parseUuid) C (idleFront ρ clock limits) x) :
    Orderly Due x.world.log := by
  have hidle : FrontWorld.Mediated argon (idleFront ρ clock limits).world :=
    ⟨SqliteKeyStore.tracks_empty, orderly_nil⟩
  exact (h.keeps_nil (front_keeps hargon) (fun p hp => front_programs_follow hp) hidle).1.orderly

/-- Answers for request `i` from the local limiter, which reads the clock without a delay, and
from a database that does not fail. -/
def FrontWorld.serve (i : Nat) :
    (o : FrontOp) → FrontWorld Metered → FrontAns Unit o × FrontWorld Metered
  | .newV4, w => ((0 : Uuid), w)
  | .checkGlobal, w =>
      let (answer, limiter) := w.limits.limiter.checkGlobal w.clock
      (Metered.reply answer, { w with limits := w.limits.after .global 0 limiter }.note
        (.checked i .global (Metered.reply answer).isOk))
  | .checkKey apiKey requestsPerMinute burstSize, w =>
      let (answer, limiter) :=
        w.limits.limiter.checkKeyWithOverride apiKey requestsPerMinute burstSize w.clock
      (Metered.reply answer, { w with limits := w.limits.after (.key apiKey) 0 limiter }.note
        (.checked i (.key apiKey) (Metered.reply answer).isOk))
  | .authenticate rawKey, w =>
      let answer := w.keys.authenticate .plain rawKey
      (answer, w.note (.tried i rawKey (foundKey answer)))
  | .checkQuota key, w =>
      let answer := w.keys.checkQuota key 0
      (answer, w.note (.quota i key answer.isOk))
  | .handle request, w => ((), w.note (.handled i request))

theorem FrontWorld.exec_serve (i : Nat) (o : FrontOp) (w : FrontWorld Metered) :
    w.exec .plain Metered.backend i o (serve i o w).1 (serve i o w).2 := by
  cases o with
  | newV4 | handle => rfl
  | checkGlobal | checkKey =>
      exact ⟨_, ⟨w.clock, Nat.le_refl _, rfl, rfl⟩, by rw [Nat.sub_self]; rfl⟩
  | authenticate rawKey => exact ⟨.inl rfl, rfl⟩
  | checkQuota key => exact ⟨⟨0, .inl rfl⟩, rfl⟩

/-- A request for the models. -/
def modelsRequest : HttpRequest where
  path := "/v1/models"
  authorization := some
    "Bearer rgk_00000000_0000000000000000000000000000000000000000000000000000000000000000"
  xRequestId := none

/-- The request as the handler gets it. -/
def modelsHandled : HttpRequest :=
  { modelsRequest with
    requestId := some 0
    authenticatedKey := some
      { id := "00000000-0000-0000-0000-000000000000"
        keyPrefix := "00000000"
        label := "models"
        role := .inference } }

def modelsCall : KeyCall := .createKey "models" .inference {} true ⟨0, 0, 0, 0, "salt", 0, true⟩

def modelsFront : Front Unit Unit :=
  (protectedRoute (fun _ => none) modelsRequest).bind fun _ => .ret ()

/-- One request at a time, and one key. -/
def modelsConfig : RateLimitConfig where
  globalBurstSize := 1
  perKeyBurstSize := 1
  maxTrackedKeys := 1

def modelsStart : Pool (FrontAns Unit) FrontPhase (FrontWorld Metered) :=
  meteredFront Unit modelsConfig Nat.one_pos 0

/-- The gateway has the one key. -/
def modelsWorld : FrontWorld Metered :=
  { modelsStart.world with keys := (SqliteKeyStore.perform .plain {} modelsCall).2 }.note
    (.administered (SqliteKeyStore.perform .plain {} modelsCall).1)

theorem modelsWorld_run : (modelsFront.run (FrontWorld.serve 0) modelsWorld).state.log.head? =
    some (.handled 0 modelsHandled) := by
  decide +kernel

theorem models_reached : ∃ x,
    Reaches (front Unit .plain Metered.backend fun _ => none) (fun _ _ => True) modelsStart x ∧
      .handled 0 modelsHandled ∈ x.world.log := by
  have hkey : Reaches (front Unit .plain Metered.backend fun _ => none) (fun _ _ => True)
      modelsStart ⟨[], modelsWorld⟩ := .step .refl (.ambient (.keys modelsCall)) trivial
  have hp : (front Unit .plain Metered.backend fun _ => none).programs modelsFront :=
    ⟨modelsRequest, rfl⟩
  have hexec : ∀ o w, True → (front Unit .plain Metered.backend fun _ => none).exec 0 w o
      (FrontWorld.serve 0 o w).1 (FrontWorld.serve 0 o w).2 ∧ True :=
    fun o w _ => ⟨FrontWorld.exec_serve 0 o w, trivial⟩
  obtain ⟨s, hreach⟩ := Reaches.call hp hexec trivial hkey
  exact ⟨_, hreach, List.mem_of_head? modelsWorld_run⟩

theorem requests_mediated_models : ∃ x,
    Reaches (front Unit .plain Metered.backend fun _ => none) (fun _ _ => True) modelsStart x ∧
      .handled 0 modelsHandled ∈ x.world.log ∧ Orderly Due x.world.log := by
  obtain ⟨x, hreach, hmem⟩ := models_reached
  exact ⟨x, hreach, hmem, requests_mediated Argon2.plain_exact hreach⟩

/-! ## A check that is passed is used once -/

namespace FrontRecord

/-- A check of the bucket that was passed. -/
@[simp] def isPass (which : RateCheck) : FrontRecord → Bool
  | .checked _ asked accepted => accepted && decide (asked = which)
  | _ => false

/-- A key was looked up, in force or not. -/
@[simp] def isAttempt : FrontRecord → Bool
  | .tried .. => true
  | _ => false

/-- A request of the key has reached a handler. -/
@[simp] def isHandling (id : String) : FrontRecord → Bool
  | .handled _ request => request.authenticatedKey.any fun key => key.id = id
  | _ => false

end FrontRecord

def passes (which : RateCheck) (log : List FrontRecord) : Nat :=
  log.countP (FrontRecord.isPass which)

def attempts (log : List FrontRecord) : Nat := log.countP FrontRecord.isAttempt

def handlings (id : String) (log : List FrontRecord) : Nat :=
  log.countP (FrontRecord.isHandling id)

/-- The request has passed the check of the key, and is still to be handled. -/
@[simp] def FrontPhase.isAdmitted (id : String) : FrontPhase → Bool
  | .admitted _ key => key.id = id
  | _ => false

section Counts

variable (which : RateCheck) (id : String) (record : FrontRecord) (log : List FrontRecord)

@[simp] theorem passes_cons :
    passes which (record :: log) = passes which log + if record.isPass which then 1 else 0 :=
  List.countP_cons

@[simp] theorem attempts_cons :
    attempts (record :: log) = attempts log + if record.isAttempt then 1 else 0 :=
  List.countP_cons

@[simp] theorem handlings_cons :
    handlings id (record :: log) = handlings id log + if record.isHandling id then 1 else 0 :=
  List.countP_cons

end Counts

/-- A key is looked up only by a request that has passed the check of all requests, and once. -/
theorem front_spends_global :
    (front ρ argon backend parseUuid).Budget (fun phase => phase = .limited)
      (fun w => passes .global w.log) (fun w => attempts w.log) where
  start := rfl
  act := by
    intro i w o a w' s s' hexec hwatch
    cases FrontWorld.moves_of_exec hexec hwatch with
    | newV4 => exact Nat.le_refl _
    | @checkGlobal answer =>
        cases answer <;> simp [Except.isOk, Except.toBool, Nat.add_assoc]
    | checkQuota rawKey key answer | @checkKey rawKey key answer =>
        cases answer <;> simp [Except.isOk, Except.toBool]
    | refuse | authenticate =>
        simp
        omega
    | handle => simp
  leave := Nat.le_refl _
  cancel := Nat.le_refl _
  ambient := by
    intro w w' h
    cases h with
    | keys call => exact Nat.le_refl _
    | tick | limits | usage => exact Nat.le_refl _

/-- A request is handled with a key only if it has passed the check of that key, and once. -/
theorem front_spends_key (id : String) :
    (front ρ argon backend parseUuid).Budget (FrontPhase.isAdmitted id)
      (fun w => passes (.key id) w.log) (fun w => handlings id w.log) where
  start := rfl
  act := by
    intro i w o a w' s s' hexec hwatch
    cases FrontWorld.moves_of_exec hexec hwatch with
    | newV4 => exact Nat.le_refl _
    | @checkGlobal answer | checkQuota rawKey key answer =>
        cases answer <;> simp [Except.isOk, Except.toBool]
    | @checkKey rawKey key answer =>
        cases answer <;> simp [Except.isOk, Except.toBool, Nat.add_assoc]
    | refuse | authenticate => simp
    | handle hadmits =>
        simp [hadmits.known]
        omega
  leave := Nat.le_refl _
  cancel := Nat.le_refl _
  ambient := by
    intro w w' h
    cases h with
    | keys call => exact Nat.le_refl _
    | tick | limits | usage => exact Nat.le_refl _

end Front

end RustyGate
