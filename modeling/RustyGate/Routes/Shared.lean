/-
What the inference routes share (`src/routes/shared.rs`), and the state of the
application as far as they read it (`src/app/state.rs`).

The two routes repeat the same bookkeeping at their exits.  An exit that fails is
recorded by `recordFailedRequest`, one that succeeds by `recordSucceededRequest`, and a
stream that breaks off by `recordFailedStream`.

Both event streams are the same loop around `next_stream_item` with their own turns.  A
poll of the provider's stream is an item or an idle timeout, and the first event is an
item that has been polled already.
-/
import RustyGate.Auth.Keys
import RustyGate.Cache.Response
import RustyGate.Routing.Fallback

namespace RustyGate

open Effect Gateway

/-- `poolForPublicModel` gives the name of the pool, and `encodes` says which chunks
`serde_json` can encode.  Of the log store and the cache only their presence matters,
their content being behind operations. -/
structure AppState where
  fallback : FallbackContext
  admission : AdmissionLimits := {}
  chatValidationLimits : ChatValidationLimits := {}
  modelAliases : String → Option String := fun _ => none
  poolForPublicModel : String → Option String := fun _ => none
  requestLogging : RequestLoggingConfig := {}
  requestLogStore : Bool := false
  responseCache : Bool := false
  cacheDigest : CanonicalChatRequest → Option String := fun _ => none
  encodes : ChatCompletionChunkResponse → Bool := fun _ => true

inductive CacheHeader where
  | hit
  | miss
  deriving DecidableEq, Repr

/-- An answer of a route.  The body of a streamed one is still to be run. -/
inductive Response where
  | chat (cache : CacheHeader) (response : ChatCompletionResponse)
  | responses (cache : CacheHeader) (response : ResponseObject)
  | sse (eventStream : Gateway Unit)

/-- A request whose answer is read to the end. -/
def serve (handler : Gateway (Except AppError Response)) : Gateway Unit :=
  handler.bind fun
    | .ok (.sse eventStream) => eventStream
    | _ => .ret ()

/-! ## The request -/

def resolveModelAlias (aliases : String → Option String) (requestedModel : String) : String :=
  (aliases requestedModel).getD requestedModel

def resolveRequestModelAlias (state : AppState) (request : ChatCompletionRequest) :
    ChatCompletionRequest :=
  { request with model := request.model.map (resolveModelAlias state.modelAliases) }

def poolNameForRequest (state : AppState) (request : ChatCompletionRequest) : Option String :=
  request.model.bind state.poolForPublicModel

def admissionInvalidRequestMessage : AdmissionRejectionReason → String
  | .maxEstimatedPromptTokens => "estimated prompt token limit exceeded"
  | .maxEstimatedTotalTokens => "estimated total token limit exceeded"
  | .globalInFlightLimit | .poolInFlightLimit | .providerInFlightLimit =>
      "request rejected by admission control"

/-! ## Recording -/

def recordAdmissionRejection (reason : AdmissionRejectionReason) : Gateway Unit :=
  metrics (.recordAdmissionRejection reason.asStr)

def recordCacheLookup (outcome : String) : Gateway Unit :=
  metrics (.recordCacheLookup outcome)

def recordApiKeyUsage (key : AuthenticatedKey) (totalTokens : UInt32) (totalCostUsd : ℚ) :
    Gateway Unit :=
  ask (.recordUsage key.id totalTokens.toUInt64 totalCostUsd)

def recordRequestMetadata (state : AppState) (entry : RequestLogEntry) : Gateway Unit :=
  if state.requestLogging.enabled ∧ state.requestLogStore then ask (.recordRequest entry)
  else .ret ()

/-- A route and the request it serves, as far as they are recorded. -/
structure Subject where
  state : AppState
  route : String
  requestId : Uuid
  /-- `none` for a body that is not a request. -/
  request : Option ChatCompletionRequest

/-- Make a log entry, which reads the clock, and record it. -/
def Subject.log (s : Subject) (finalProvider : Option String) (status : RequestLogStatus)
    (latencyMs : UInt64) (usage : Option TokenUsage) (cost : Option CostEstimate)
    (category : Option RequestErrorCategory) (attempts : List ProviderAttempt) :
    Gateway Unit := do
  let now ← ask .unixTimestamp
  recordRequestMetadata s.state (.new now s.requestId s.route s.request finalProvider status
    latencyMs usage cost category attempts s.state.requestLogging)

/-- An exit that fails before an answer was begun. -/
def recordFailedRequest (s : Subject) (rejected : Option AdmissionRejectionReason)
    (category : Option RequestErrorCategory) (attempts : List ProviderAttempt) :
    Gateway Unit := do
  let latencyMs ← ask (.elapsedMs none)
  (rejected.map recordAdmissionRejection).getD (.ret ())
  metrics (.recordChatFailure latencyMs attempts (category.map (·.asStr)))
  s.log none .failure latencyMs none none category attempts

/-- The exits behind a failed `complete_chat` or `complete_chat_stream`. -/
def recordFallbackError (s : Subject) : FallbackError → Gateway AppError
  | .noProviderAvailable => do
      recordFailedRequest s none (some .noProviderAvailable) []
      return .noProviderAvailable (some s.requestId)
  | .admissionRejected rejection => do
      recordFailedRequest s (some rejection.reason) (some .admissionRejected) []
      return rejection.intoAppError (some s.requestId)
  | .providerFailed error attempts => do
      recordFailedRequest s none
        ((attempts.getLast?.bind (·.errorCategory)).map .ofProvider) attempts
      return .fromProviderError error (some s.requestId)

def recordSucceededRequest (s : Subject) (key : AuthenticatedKey) (provider : String)
    (usage : TokenUsage) (cost : CostEstimate) (latencyMs : UInt64)
    (attempts : List ProviderAttempt) : Gateway Unit := do
  metrics (.recordChatSuccess provider usage cost latencyMs attempts)
  s.log (some provider) .success latencyMs (some usage) (some cost) none attempts
  recordApiKeyUsage key usage.totalTokens cost.totalCostUsd

/-! ## The cache -/

/-- `some` is a hit. -/
def lookupCache (state : AppState) (key : AuthenticatedKey) (request : ChatCompletionRequest) :
    Gateway (Option ChatCompletionResponse) :=
  if state.responseCache ∧ !key.cacheEnabled then do
    recordCacheLookup "skip_disabled"
    return none
  else if state.responseCache then
    match cacheKeyForRequest state.cacheDigest request with
    | some cacheKey => do
        match ← ask (.cacheGet cacheKey) with
        | some response =>
            recordCacheLookup "hit"
            return some response
        | none =>
            recordCacheLookup "miss"
            return none
    | none => do
        recordCacheLookup
          (if (request.temperature.getD .zero).isPositive then "skip_temperature"
            else "skip_tools")
        return none
  else return none

def storeInCache (state : AppState) (key : AuthenticatedKey) (request : ChatCompletionRequest)
    (response : ChatCompletionResponse) : Gateway Unit :=
  if key.cacheEnabled ∧ state.responseCache then
    match cacheKeyForRequest state.cacheDigest request with
    | some cacheKey => ask (.cachePut cacheKey response)
    | none => .ret ()
  else .ret ()

/-! ## Event streams -/

/-- What the event stream of a route has moved into it. -/
structure StreamJob where
  subject : Subject
  key : AuthenticatedKey
  success : StreamingFallbackSuccess
  admissionGuard : GuardId

/-- The local variables of an event stream where its loop breaks. -/
structure StreamEnd where
  usage : Option TokenUsage := none
  failed : Bool := false
  errorCategory : Option RequestErrorCategory := none
  outcome : Option StreamOutcome := none
  attempts : List ProviderAttempt
  deriving DecidableEq

/-- How a turn of the loop ends, with what the loop accumulates. -/
inductive Turn (σ : Type) where
  | goOn (s : σ)
  | stop (s : σ) (finish : StreamEnd)

section Loop

variable {σ : Type} (provider : String) (turn : σ → Poll → Gateway (Turn σ))
  (ended : σ → Gateway (σ × StreamEnd))

/-- The loop once the first event has been taken.  `ended` is the arm for the end of
the provider's stream. -/
def streamLoop : ProviderStream → σ → Gateway (σ × StreamEnd)
  | [], s => do
      ask (.pollStream provider)
      ended s
  | poll :: rest, s => do
      ask (.pollStream provider)
      match ← turn s poll with
      | .goOn s => streamLoop rest s
      | .stop s finish => return (s, finish)

def streamEvents (first : ProviderStreamEvent) (upstream : ProviderStream) (s : σ) :
    Gateway (σ × StreamEnd) := do
  match ← turn s (.item (.ok first)) with
  | .goOn s => streamLoop provider turn ended upstream s
  | .stop s finish => return (s, finish)

end Loop

/-- The last attempt failed after all. -/
def failLastAttempt (attempts : List ProviderAttempt) (category : ProviderErrorCategory)
    (latencyMs : UInt64) : List ProviderAttempt :=
  match attempts.getLast? with
  | none => attempts
  | some last => attempts.dropLast ++
      [{ last with success := false, errorCategory := some category, latencyMs := latencyMs }]

namespace StreamJob

/-- The arms for an error of the provider and for an idle timeout. -/
def breakOff (job : StreamJob) (event : AppError → SseEvent) (error : ProviderError)
    (outcome : StreamOutcome) : Gateway StreamEnd := do
  ask (.yield (event (.fromProviderError error (some job.subject.requestId))))
  let latencyMs ← ask (.elapsedMs none)
  return {
    failed := true
    errorCategory := some (.ofProvider (providerErrorCategory error))
    outcome := some outcome
    attempts := failLastAttempt job.success.attempts (providerErrorCategory error) latencyMs }

/-- The arms for a stream that ends early and for an item that cannot be passed on.
They leave the attempts as they are. -/
def giveUp (job : StreamJob) (event : AppError → SseEvent) (outcome : StreamOutcome) :
    Gateway StreamEnd := do
  ask (.yield (event (.providerFailure (some job.subject.requestId))))
  return {
    failed := true
    errorCategory := some .providerBadResponse
    outcome := some outcome
    attempts := job.success.attempts }

/-- `stream_metrics_guard.finish`. -/
def finishMetrics (outcome : StreamOutcome) : Gateway Unit := do
  let durationMs ← ask .streamElapsedMs
  metrics (.recordStreamOutcome outcome.asStr durationMs)

def recordFailedStream (job : StreamJob) (finish : StreamEnd) (latencyMs : UInt64) :
    Gateway Unit := do
  let category := finish.errorCategory.getD .providerBadResponse
  finishMetrics (finish.outcome.getD .midStreamFailure)
  metrics (.recordChatFailure latencyMs finish.attempts (some category.asStr))
  job.subject.log (some job.success.providerName) .failure latencyMs finish.usage none
    (some category) finish.attempts

def recordSucceededStream (job : StreamJob) (usage : TokenUsage)
    (attempts : List ProviderAttempt) (latencyMs : UInt64) : Gateway Unit := do
  finishMetrics .completed
  recordSucceededRequest job.subject job.key job.success.providerName usage
    (job.success.pricing.estimateCost usage.promptTokens usage.completionTokens) latencyMs
    attempts

/-- The guards are dropped in the reverse order of their declaration.  The one for the
metrics of the stream has been finished. -/
def dropGuards (job : StreamJob) : Gateway Unit := do
  ask (.dropAdmissionGuard job.success.admissionGuard)
  metrics (.endProviderRequest job.success.providerName job.success.inFlightUnits)
  ask (.dropAdmissionGuard job.admissionGuard)
  metrics .endRequest

end StreamJob
end RustyGate
