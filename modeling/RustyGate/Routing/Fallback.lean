/-
Fallback over candidate providers (`src/routing/fallback.rs`).

`completeChat` and `completeChatStream` try the candidates in order.  Each candidate is
asked for by the circuit breaker, takes a slot, and is called up to `max_retries + 1`
times.  The two loops are separate functions of the source and are kept apart here.

A guard is dropped where its scope ends: the in-flight guard at the end of each turn of
the retry loop, so also after the back-off, and the admission guard at the end of the
turn of the candidate loop.
-/
import RustyGate.Gateway.Interface
import RustyGate.Routing.Resilience

namespace RustyGate

open Effect Gateway

inductive RetryDecision where
  | tryNextProvider
  | stop
  deriving DecidableEq, Repr

def fallbackDecision : ProviderError → RetryDecision
  | .timeout | .rateLimited | .providerUnavailable => .tryNextProvider
  | .authenticationFailed | .providerBadResponse => .stop

inductive PrefixFingerprintConfidence where
  | high
  | low
  deriving DecidableEq, Repr

structure PrefixFingerprintResult where
  fingerprint : Option String
  confidence : PrefixFingerprintConfidence
  deriving DecidableEq, Repr

def PrefixFingerprintResult.isHighConfidence (f : PrefixFingerprintResult) : Bool :=
  f.confidence == .high && f.fingerprint.isSome

/-- The parts of the context the loops read that never change. -/
structure FallbackContext where
  policyFor : String → ProviderResiliencePolicy
  fingerprintRequest : ChatCompletionRequest → PrefixFingerprintResult

structure FallbackSuccess where
  response : ChatCompletionResponse
  providerName : String
  costEstimate : CostEstimate
  estimatedCostUsd : ℚ
  attempts : List ProviderAttempt
  deriving DecidableEq

/-- `inFlightUnits` is the weight of the in-flight guard, and `admissionGuard` the
admission guard, which both leave with the stream. -/
structure StreamingFallbackSuccess where
  context : ProviderStreamContext
  firstEvent : ProviderStreamEvent
  stream : ProviderStream
  providerName : String
  pricing : ProviderPricing
  attempts : List ProviderAttempt
  inFlightUnits : Nat
  admissionGuard : GuardId

inductive FallbackError where
  | noProviderAvailable
  | admissionRejected (rejection : AdmissionRejection)
  | providerFailed (error : ProviderError) (attempts : List ProviderAttempt)
  deriving DecidableEq, Repr

/-! ## Back-off -/

/-- The sum of the bytes of the name and of the retry, within the jitter. -/
def deterministicJitterMs (providerName : String) (retryAttempt : Nat) (jitterMs : Nat) : Nat :=
  if jitterMs = 0 then 0
  else
    let byteSum := min (providerName.toUTF8.toList.map UInt8.toNat).sum (2 ^ 64 - 1)
    min (byteSum + retryAttempt * 17) (2 ^ 64 - 1) % (jitterMs + 1)

/-- Doubling from the initial back-off up to the cap, in milliseconds. -/
def retryBackoff (policy : RetryPolicy) (retryAttempt : Nat) (providerName : String) : Nat :=
  let base := min (policy.initialBackoffMs.toNat * min (2 ^ (retryAttempt - 1)) (2 ^ 64 - 1))
    (2 ^ 64 - 1)
  let capped := min base (max policy.maxBackoffMs policy.initialBackoffMs).toNat
  min (capped + deterministicJitterMs providerName retryAttempt policy.jitterMs.toNat)
    (2 ^ 64 - 1)

/-! ## Shared pieces -/

def requestForProvider (request : ChatCompletionRequest) (providerModel : String) :
    ChatCompletionRequest :=
  { request with model := some providerModel }

def providerLoadEstimate (request : ChatCompletionRequest) : ProviderLoadEstimate where
  promptTokens := estimateTokensForMessages request.messages
  maxCompletionTokens := request.maxTokens

def recordPrefixFingerprint (f : PrefixFingerprintResult) : Gateway Unit :=
  metrics (.recordPrefixFingerprint (if f.isHighConfidence then "hit" else "miss"))

def recordPrefixAffinitySelection (f : PrefixFingerprintResult) (providerName : String)
    (policy : RoutingPolicy) : Gateway Unit :=
  if policy = .prefixAffinity ∧ f.isHighConfidence = true then
    match f.fingerprint with
    | some fingerprint => ask (.recordPrefixAffinity fingerprint providerName)
    | none => .ret ()
  else .ret ()

/-- Every candidate but the first is noted as a fallback. -/
def recordFallback (policy : RoutingPolicy) (index : Nat) : Gateway Unit :=
  if 0 < index then recordRoutingDecision policy "fallback" else .ret ()

/-- What stays the same during one call of either loop. -/
structure FallbackCall where
  context : FallbackContext
  request : ChatCompletionRequest
  policy : RoutingPolicy

namespace FallbackCall

def fingerprint (c : FallbackCall) : PrefixFingerprintResult :=
  c.context.fingerprintRequest c.request

def retryPolicy (c : FallbackCall) (provider : String) : RetryPolicy :=
  (c.context.policyFor provider).retry

def inFlightUnits (c : FallbackCall) : Nat :=
  (providerLoadEstimate c.request).queuePressureUnits

end FallbackCall

/-- The local variables `attempts` and `attempt_order`. -/
structure AttemptLog where
  attempts : List ProviderAttempt := []
  attemptOrder : Nat := 0
  deriving DecidableEq, Repr

/-- `attempt_order` saturates at `u32::MAX`. -/
def AttemptLog.push (log : AttemptLog) (providerName : String) (isFallback : Bool)
    (latencyMs : UInt64) (error : Option ProviderError) : AttemptLog where
  attemptOrder := min (log.attemptOrder + 1) (2 ^ 32 - 1)
  attempts := log.attempts ++
    [{ providerName := providerName
       attemptOrder := min (log.attemptOrder + 1) (2 ^ 32 - 1)
       latencyMs := latencyMs
       success := error.isNone
       isFallback := isFallback
       errorCategory := error.map providerErrorCategory }]

/-- How the retry loop of one candidate ends: by `return`, or by `break` with
`last_retryable_error` set or not. -/
inductive RetryExit (α : Type) where
  | returned (result : Except FallbackError α)
  | left (lastRetryableError : Option ProviderError) (log : AttemptLog)

/-- What is returned when no candidate is left to try. -/
def exhausted {α : Type} (admissionRejection : Option AdmissionRejection) :
    Except FallbackError α :=
  match admissionRejection with
  | some rejection => .error (.admissionRejected rejection)
  | none => .error .noProviderAvailable

/-! ## `complete_chat` -/

/-- The retry loop.  `left` is `max_retries - retry_attempt`. -/
def chatRetries (c : FallbackCall) (entry : ProviderEntry) (index : Nat) :
    (left retry : Nat) → AttemptLog → Gateway (RetryExit FallbackSuccess)
  | left, retry, log => do
      metrics (.beginProviderRequest entry.name c.inFlightUnits)
      let result ← ask (.chatCompletion ⟨index, retry⟩ entry.name
        (requestForProvider c.request entry.model))
      let latencyMs ← ask (.elapsedMs (some ⟨index, retry⟩))
      match result with
      | .ok response =>
          let log := log.push entry.name (0 < index) latencyMs none
          ask (.recordSuccess index entry.name)
          recordRoutingDecision c.policy "selected"
          recordPrefixAffinitySelection c.fingerprint entry.name c.policy
          let cost := entry.pricing.estimateCost response.usage.promptTokens
            response.usage.completionTokens
          metrics (.endProviderRequest entry.name c.inFlightUnits)
          return .returned (.ok
            { response := response
              providerName := entry.name
              costEstimate := cost
              estimatedCostUsd := cost.totalCostUsd
              attempts := log.attempts })
      | .error error =>
          let log := log.push entry.name (0 < index) latencyMs (some error)
          match fallbackDecision error with
          | .tryNextProvider =>
              match left with
              | left + 1 =>
                  ask (.sleep ⟨index, retry⟩
                    (retryBackoff (c.retryPolicy entry.name) (retry + 1) entry.name))
                  metrics (.endProviderRequest entry.name c.inFlightUnits)
                  chatRetries c entry index left (retry + 1) log
              | 0 =>
                  ask (.recordFailure index entry.name)
                  metrics (.endProviderRequest entry.name c.inFlightUnits)
                  return .left (some error) log
          | .stop =>
              metrics (.endProviderRequest entry.name c.inFlightUnits)
              return .returned (.error (.providerFailed error log.attempts))

/-- The candidate loop.  `index + 1 < candidates.len()` holds exactly when `rest` is not
empty. -/
def chatCandidates (c : FallbackCall) :
    List ProviderEntry → Nat → AttemptLog → Option AdmissionRejection →
      Gateway (Except FallbackError FallbackSuccess)
  | [], _, _, rejection => return exhausted rejection
  | entry :: rest, index, log, rejection => do
      if ← ask (.allowProviderCall index entry.name) then
        match ← ask (.tryAcquireProvider index entry.name) with
        | .error rejected => chatCandidates c rest (index + 1) log (some rejected)
        | .ok guard =>
            recordFallback c.policy index
            match ← chatRetries c entry index (c.retryPolicy entry.name).maxRetries.toNat 0
              log with
            | .returned result =>
                ask (.dropAdmissionGuard guard)
                return result
            | .left (some error) log =>
                ask (.dropAdmissionGuard guard)
                if rest.isEmpty then
                  return .error (.providerFailed error log.attempts)
                else chatCandidates c rest (index + 1) log rejection
            | .left none log =>
                ask (.dropAdmissionGuard guard)
                chatCandidates c rest (index + 1) log rejection
      else
        recordRoutingDecision c.policy "circuit_open"
        chatCandidates c rest (index + 1) log rejection

def completeChat (context : FallbackContext) (request : ChatCompletionRequest) :
    Gateway (Except FallbackError FallbackSuccess) := do
  recordPrefixFingerprint (context.fingerprintRequest request)
  let selection ← ask (.candidateProviders request)
  recordRoutingDecision selection.effectivePolicy selection.reason
  if selection.candidates.isEmpty then
    return .error .noProviderAvailable
  else
    chatCandidates ⟨context, request, selection.effectivePolicy⟩ selection.candidates 0 {} none

/-! ## `complete_chat_stream` -/

/-- The retry loop.  `last` is `last_retryable_error`, and `more` says that another
candidate follows. -/
def streamRetries (c : FallbackCall) (entry : ProviderEntry) (index : Nat) (guard : GuardId)
    (more : Bool) :
    (left retry : Nat) → Option ProviderError → AttemptLog →
      Gateway (RetryExit StreamingFallbackSuccess)
  | left, retry, last, log => do
      metrics (.beginProviderRequest entry.name c.inFlightUnits)
      let result ← ask (.chatCompletionStream ⟨index, retry⟩ entry.name
        (requestForProvider c.request entry.model))
      match result with
      | .ok (context, stream) =>
          ask (.pollStream entry.name)
          let latencyMs ← ask (.elapsedMs (some ⟨index, retry⟩))
          match stream.next with
          | (some (.ok firstEvent), stream) =>
              metrics (.recordProviderTtft entry.name latencyMs)
              let log := log.push entry.name (0 < index) latencyMs none
              ask (.recordSuccess index entry.name)
              recordRoutingDecision c.policy "selected"
              recordPrefixAffinitySelection c.fingerprint entry.name c.policy
              return .returned (.ok
                { context := context
                  firstEvent := firstEvent
                  stream := stream
                  providerName := entry.name
                  pricing := entry.pricing
                  attempts := log.attempts
                  inFlightUnits := c.inFlightUnits
                  admissionGuard := guard })
          | (some (.error error), _) =>
              let log := log.push entry.name (0 < index) latencyMs (some error)
              match fallbackDecision error with
              | .tryNextProvider =>
                  match left with
                  | left + 1 =>
                      ask (.sleep ⟨index, retry⟩
                        (retryBackoff (c.retryPolicy entry.name) (retry + 1) entry.name))
                      metrics (.endProviderRequest entry.name c.inFlightUnits)
                      streamRetries c entry index guard more left (retry + 1) (some error) log
                  | 0 =>
                      ask (.recordFailure index entry.name)
                      metrics (.endProviderRequest entry.name c.inFlightUnits)
                      return .left (some error) log
              | .stop =>
                  metrics (.endProviderRequest entry.name c.inFlightUnits)
                  return .returned (.error (.providerFailed error log.attempts))
          | (none, _) =>
              let log := log.push entry.name (0 < index) latencyMs (some .providerBadResponse)
              metrics (.endProviderRequest entry.name c.inFlightUnits)
              if more then return .left last log
              else return .returned (.error (.providerFailed .providerBadResponse log.attempts))
      | .error error =>
          let latencyMs ← ask (.elapsedMs (some ⟨index, retry⟩))
          let log := log.push entry.name (0 < index) latencyMs (some error)
          match fallbackDecision error with
          | .tryNextProvider =>
              match left with
              | left + 1 =>
                  ask (.sleep ⟨index, retry⟩
                    (retryBackoff (c.retryPolicy entry.name) (retry + 1) entry.name))
                  metrics (.endProviderRequest entry.name c.inFlightUnits)
                  streamRetries c entry index guard more left (retry + 1) (some error) log
              | 0 =>
                  ask (.recordFailure index entry.name)
                  metrics (.endProviderRequest entry.name c.inFlightUnits)
                  return .left (some error) log
          | .stop =>
              metrics (.endProviderRequest entry.name c.inFlightUnits)
              return .returned (.error (.providerFailed error log.attempts))

/-- The candidate loop.  A returned stream takes the admission guard with it. -/
def streamCandidates (c : FallbackCall) :
    List ProviderEntry → Nat → AttemptLog → Option AdmissionRejection →
      Gateway (Except FallbackError StreamingFallbackSuccess)
  | [], _, _, rejection => return exhausted rejection
  | entry :: rest, index, log, rejection => do
      if ← ask (.allowProviderCall index entry.name) then
        match ← ask (.tryAcquireProvider index entry.name) with
        | .error rejected => streamCandidates c rest (index + 1) log (some rejected)
        | .ok guard =>
            recordFallback c.policy index
            match ← streamRetries c entry index guard (!rest.isEmpty)
              (c.retryPolicy entry.name).maxRetries.toNat 0 none log with
            | .returned (.ok success) => return .ok success
            | .returned (.error error) =>
                ask (.dropAdmissionGuard guard)
                return .error error
            | .left (some error) log =>
                ask (.dropAdmissionGuard guard)
                if rest.isEmpty then
                  return .error (.providerFailed error log.attempts)
                else streamCandidates c rest (index + 1) log rejection
            | .left none log =>
                ask (.dropAdmissionGuard guard)
                streamCandidates c rest (index + 1) log rejection
      else
        recordRoutingDecision c.policy "circuit_open"
        streamCandidates c rest (index + 1) log rejection

def completeChatStream (context : FallbackContext) (request : ChatCompletionRequest) :
    Gateway (Except FallbackError StreamingFallbackSuccess) := do
  recordPrefixFingerprint (context.fingerprintRequest request)
  let selection ← ask (.candidateProviders request)
  recordRoutingDecision selection.effectivePolicy selection.reason
  if selection.candidates.isEmpty then
    return .error .noProviderAvailable
  else
    streamCandidates ⟨context, request, selection.effectivePolicy⟩ selection.candidates 0 {} none

end RustyGate
