/-
The way of a request to its handler (`src/app/middleware.rs`, and the layers around the
protected routes in `src/app/router.rs`).

A middleware gets the rest of the way as `next`.  What it asks is an operation: the two trait
objects of the state, `rate_limit_backend` and `key_store`, may be behind a network, and
another request can come between any two of their answers.  A header is `none` where it is
missing or not text.  `Uuid::parse_str` is a parameter, and the handler an operation that is
given the request as the layers have left it.
-/
import RustyGate.Auth.Quota
import RustyGate.Error

namespace RustyGate

open Effect

/-- A request with its extensions, as far as the layers read or set them. -/
structure HttpRequest where
  path : String
  authorization : Option String
  xRequestId : Option String
  requestId : Option Uuid := none
  authenticatedKey : Option AuthenticatedKey := none
  deriving DecidableEq

inductive FrontOp where
  | newV4
  | checkGlobal
  | authenticate (rawKey : String)
  | checkQuota (key : AuthenticatedKey)
  | checkKey (apiKey : String) (requestsPerMinute burstSize : Option UInt32)
  | handle (request : HttpRequest)

/-- The answers, with `ρ` for what the handlers respond. -/
def FrontAns (ρ : Type) : FrontOp → Type
  | .newV4 => Uuid
  | .checkGlobal | .checkKey .. => Except UInt64 Unit
  | .authenticate _ => Except AuthError (Option AuthenticatedKey)
  | .checkQuota _ => Except QuotaRejection Unit
  | .handle _ => ρ

abbrev Front (ρ α : Type) := Program FrontOp (FrontAns ρ) α

/-- What is left of the way: a response of the handler, or an error of a layer. -/
abbrev Handler (ρ : Type) := HttpRequest → Front ρ (Except AppError ρ)

def bearerToken (request : HttpRequest) : Option String := do
  let header ← request.authorization
  let token ← header.toList.dropPrefix? "Bearer ".toList
  if token.isEmpty then none else some (String.ofList token)

def roleAllowsPath (role : KeyRole) (path : String) : Bool :=
  if path = "/stats" ∨ path = "/stats/providers" ∨ path = "/metrics" then
    role.allowsObservability
  else role.allowsInference || path == "/v1/models"

section Layers

variable {ρ : Type} (parseUuid : String → Option Uuid) (next : Handler ρ) (request : HttpRequest)

def requestIdMiddleware : Front ρ (Except AppError ρ) :=
  match request.xRequestId.bind parseUuid with
  | some requestId => next { request with requestId := some requestId }
  | none => .op .newV4 fun requestId => next { request with requestId := some requestId }

def requestIdFromExtensions : Front ρ Uuid :=
  match request.requestId with
  | some requestId => .ret requestId
  | none => .op .newV4 .ret

def preAuthRateLimitMiddleware : Front ρ (Except AppError ρ) := do
  let requestId ← requestIdFromExtensions request
  .op .checkGlobal fun
    | .error retryAfterSeconds =>
        .ret (.error (.gatewayRateLimited (some requestId) retryAfterSeconds))
    | .ok _ => next request

def authMiddleware : Front ρ (Except AppError ρ) := do
  let requestId ← requestIdFromExtensions request
  match bearerToken request with
  | none => .ret (.error (.unauthorized "missing bearer token" (some requestId)))
  | some apiKey =>
      .op (.authenticate apiKey) fun
        | .ok (some key) =>
            if roleAllowsPath key.role request.path then
              next { request with authenticatedKey := some key }
            else
              .ret (.error (.forbidden "API key is not allowed to access this route"
                (some requestId)))
        | .ok none | .error _ =>
            .ret (.error (.unauthorized "invalid bearer token" (some requestId)))

/-- The burst that goes with a key's own rate. -/
def KeyLimits.burst (limits : KeyLimits) : Option UInt32 :=
  limits.requestsPerMinute.map fun rpm => max (rpm / 4) 1

def perKeyRateLimitMiddleware : Front ρ (Except AppError ρ) := do
  let requestId ← requestIdFromExtensions request
  match request.authenticatedKey with
  | none => .ret (.error (.unauthorized "missing authenticated API key" (some requestId)))
  | some apiKey =>
      .op (.checkQuota apiKey) fun
        | .error quota =>
            .ret (.error (.gatewayRateLimited (some requestId) quota.retryAfterSeconds))
        | .ok _ =>
            .op (.checkKey apiKey.id apiKey.limits.requestsPerMinute apiKey.limits.burst) fun
              | .error retryAfterSeconds =>
                  .ret (.error (.gatewayRateLimited (some requestId) retryAfterSeconds))
              | .ok _ => next request

/-- The layers around a protected route, the last one added outermost. -/
def protectedRoute : Front ρ (Except AppError ρ) :=
  requestIdMiddleware parseUuid
    (preAuthRateLimitMiddleware
      (authMiddleware
        (perKeyRateLimitMiddleware fun request => .op (.handle request) fun response =>
          .ret (.ok response))))
    request

end Layers

/-! ## The order of the layers -/

/-- How far a request has come. -/
inductive FrontPhase where
  | arrived
  | limited
  | known (rawKey : String) (key : AuthenticatedKey)
  | withinQuota (rawKey : String) (key : AuthenticatedKey)
  | admitted (rawKey : String) (key : AuthenticatedKey)
  | ended
  deriving DecidableEq

/-- The key may be used for the request, which carries it in the header. -/
structure HttpRequest.Admits (request : HttpRequest) (rawKey : String)
    (key : AuthenticatedKey) : Prop where
  carries : bearerToken request = some rawKey
  known : request.authenticatedKey = some key
  allowed : roleAllowsPath key.role request.path = true

instance (request : HttpRequest) (rawKey : String) (key : AuthenticatedKey) :
    Decidable (request.Admits rawKey key) :=
  decidable_of_iff
    (bearerToken request = some rawKey ∧ request.authenticatedKey = some key ∧
      roleAllowsPath key.role request.path = true)
    ⟨fun h => ⟨h.1, h.2.1, h.2.2⟩, fun h => ⟨h.carries, h.known, h.allowed⟩⟩

namespace FrontPhase

variable {ρ : Type}

/-- A check that is passed leads on, and one that is not ends the request. -/
@[simp] def passing {ε : Type} (phase : FrontPhase) (answer : Except ε Unit) : FrontPhase :=
  if answer.isOk then phase else ended

/-- The steps of a request in their order.  Every one of them is about the key that the
request has brought. -/
def watch : FrontPhase → (o : FrontOp) → FrontAns ρ o → Option FrontPhase
  | phase, .newV4, _ => some phase
  | arrived, .checkGlobal, answer => some (passing limited answer)
  | limited, .authenticate rawKey, answer =>
      match answer with
      | .ok (some key) => some (known rawKey key)
      | .ok none | .error _ => some ended
  | known rawKey key, .checkQuota asked, answer =>
      if asked = key then some (passing (withinQuota rawKey key) answer) else none
  | withinQuota rawKey key, .checkKey apiKey requestsPerMinute burstSize, answer =>
      if apiKey = key.id ∧ requestsPerMinute = key.limits.requestsPerMinute ∧
          burstSize = key.limits.burst then
        some (passing (admitted rawKey key) answer)
      else none
  | admitted rawKey key, .handle request, _ =>
      if request.Admits rawKey key then some ended else none
  | _, _, _ => none

end FrontPhase

section Order

variable {ρ : Type} {next : Handler ρ} {request : HttpRequest} {rawKey : String}
  {key : AuthenticatedKey}

/-- The way from here on keeps to the order, whatever it is answered. -/
def Handler.KeepsOrder (next : Handler ρ) (phase : FrontPhase) (request : HttpRequest) : Prop :=
  (next request).Follows FrontPhase.watch (fun _ _ => True) phase

theorem requestIdFromExtensions_follows (phase : FrontPhase) :
    (requestIdFromExtensions request : Front ρ Uuid).Follows FrontPhase.watch
      (fun _ phase' => phase' = phase) phase := by
  unfold requestIdFromExtensions
  split
  · rfl
  · intro id
    cases phase <;> exact ⟨_, rfl, rfl⟩

/-- A layer first looks up the request's id, which leaves the phase as it is. -/
theorem follows_withId {phase : FrontPhase} {layer : Uuid → Front ρ (Except AppError ρ)}
    (h : ∀ requestId, (layer requestId).Follows FrontPhase.watch (fun _ _ => True) phase) :
    ((requestIdFromExtensions request).bind layer).Follows FrontPhase.watch (fun _ _ => True)
      phase :=
  (requestIdFromExtensions_follows phase).bind fun requestId _ hphase => hphase ▸ h requestId

theorem perKeyRateLimitMiddleware_keepsOrder (hkey : request.authenticatedKey = some key)
    (hnext : next.KeepsOrder (.admitted rawKey key) request) :
    Handler.KeepsOrder (perKeyRateLimitMiddleware next) (.known rawKey key) request := by
  refine follows_withId fun requestId => ?_
  rw [hkey]
  intro answer
  refine ⟨_, if_pos rfl, ?_⟩
  cases answer with
  | error quota => trivial
  | ok _ =>
      intro answer
      refine ⟨_, if_pos ⟨rfl, rfl, rfl⟩, ?_⟩
      cases answer with
      | error retryAfterSeconds => trivial
      | ok _ => exact hnext

theorem authMiddleware_keepsOrder
    (hnext : ∀ rawKey key, { request with authenticatedKey := some key }.Admits rawKey key →
      next.KeepsOrder (.known rawKey key) { request with authenticatedKey := some key }) :
    Handler.KeepsOrder (authMiddleware next) .limited request := by
  refine follows_withId fun requestId => ?_
  cases htoken : bearerToken request with
  | none => trivial
  | some rawKey =>
      intro answer
      match answer with
      | .error _ => exact ⟨.ended, rfl, trivial⟩
      | .ok none => exact ⟨.ended, rfl, trivial⟩
      | .ok (some key) =>
          refine ⟨.known rawKey key, rfl, ?_⟩
          dsimp only
          split
          · rename_i hallowed
            exact hnext rawKey key ⟨htoken, rfl, hallowed⟩
          · trivial

theorem preAuthRateLimitMiddleware_keepsOrder (hnext : next.KeepsOrder .limited request) :
    Handler.KeepsOrder (preAuthRateLimitMiddleware next) .arrived request := by
  refine follows_withId fun requestId => ?_
  intro answer
  refine ⟨_, rfl, ?_⟩
  cases answer with
  | error retryAfterSeconds => trivial
  | ok _ => exact hnext

/-- The layers keep to the order, whatever the request. -/
theorem protectedRoute_keepsOrder (parseUuid : String → Option Uuid) (request : HttpRequest) :
    Handler.KeepsOrder (@protectedRoute ρ parseUuid) .arrived request := by
  have hlayers : ∀ request, @Handler.KeepsOrder ρ
      (preAuthRateLimitMiddleware (authMiddleware (perKeyRateLimitMiddleware fun request =>
        .op (.handle request) fun response => .ret (.ok response)))) .arrived request := by
    intro request
    refine preAuthRateLimitMiddleware_keepsOrder (authMiddleware_keepsOrder ?_)
    intro rawKey key hadmits
    refine perKeyRateLimitMiddleware_keepsOrder rfl fun response => ?_
    exact ⟨.ended, if_pos hadmits, trivial⟩
  unfold protectedRoute requestIdMiddleware Handler.KeepsOrder
  dsimp only
  split
  · exact hlayers _
  · exact fun requestId => ⟨.arrived, rfl, hlayers _⟩

end Order

end RustyGate
