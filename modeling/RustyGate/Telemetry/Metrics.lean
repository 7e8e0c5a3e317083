/-
The in-memory counters (`src/telemetry/metrics.rs`).

Each recording operation of the registry is a constructor of `MetricsUpdate`, and
`MetricsRegistry.record` performs it.  Counters are natural numbers.
-/
import RustyGate.Collections.Tally
import RustyGate.Telemetry.RequestLog

namespace RustyGate

inductive StreamOutcome where
  | completed
  | midStreamFailure
  | idleTimeout
  | incomplete
  | cancelled
  deriving DecidableEq, Repr

namespace StreamOutcome

def asStr : StreamOutcome → String
  | completed => "completed"
  | midStreamFailure => "mid_stream_failure"
  | idleTimeout => "idle_timeout"
  | incomplete => "incomplete"
  | cancelled => "cancelled"

end StreamOutcome

structure ProviderLoadEstimate where
  promptTokens : UInt32
  maxCompletionTokens : Option UInt32
  deriving DecidableEq, Repr

namespace ProviderLoadEstimate

/-- One unit for the call and one for each started block of 1024 tokens.  The sum of
the tokens saturates. -/
def queuePressureUnits (l : ProviderLoadEstimate) : Nat :=
  let tokens := min (l.promptTokens.toNat + (l.maxCompletionTokens.getD 0).toNat) (2 ^ 32 - 1)
  1 + (tokens + 1023) / 1024

end ProviderLoadEstimate

def maxLatencySamples : Nat := 1024
def maxErrorSamples : Nat := 1024

structure MetricsRegistry where
  totalRequests : Nat := 0
  successfulRequests : Nat := 0
  failedRequests : Nat := 0
  inFlightRequests : Nat := 0
  totalProviderAttempts : Nat := 0
  fallbackAttempts : Nat := 0
  estimatedPromptTokens : Nat := 0
  estimatedCompletionTokens : Nat := 0
  estimatedTotalTokens : Nat := 0
  estimatedInputCostUsd : ℚ := 0
  estimatedOutputCostUsd : ℚ := 0
  estimatedTotalCostUsd : ℚ := 0
  requestsByProvider : Tally String := ∅
  successesByProvider : Tally String := ∅
  errorsByProvider : Tally String := ∅
  fallbackAttemptsByProvider : Tally String := ∅
  requestErrorsByCategory : Tally String := ∅
  providerErrorsByProviderAndCategory : Tally (String × String) := ∅
  providerErrorSamples : String → List String := fun _ => []
  admissionRejectionsByReason : Tally String := ∅
  providerLatencySamplesMs : String → List UInt64 := fun _ => []
  providerTtftSamplesMs : String → List UInt64 := fun _ => []
  providerTotalLatencyMs : Tally String := ∅
  inFlightRequestsByProvider : Tally String := ∅
  providerQueuePressureUnits : Tally String := ∅
  routingDecisionsByPolicyAndReason : Tally (String × String) := ∅
  prefixFingerprintsByOutcome : Tally String := ∅
  latencySamplesMs : List UInt64 := []
  totalLatencyMs : Nat := 0
  cacheLookupsByOutcome : Tally String := ∅
  streamOutcomesByOutcome : Tally String := ∅
  streamDurationSamplesMs : List UInt64 := []

/-- The recording operations of the registry. -/
inductive MetricsUpdate where
  | beginRequest
  | endRequest
  | beginProviderRequest (provider : String) (units : Nat)
  | endProviderRequest (provider : String) (units : Nat)
  | recordProviderTtft (provider : String) (ttftMs : UInt64)
  | recordRoutingDecision (policy reason : String)
  | recordPrefixFingerprint (outcome : String)
  | recordAdmissionRejection (reason : String)
  | recordCacheLookup (outcome : String)
  | recordStreamOutcome (outcome : String) (durationMs : UInt64)
  | recordChatSuccess (provider : String) (usage : TokenUsage) (cost : CostEstimate)
      (latencyMs : UInt64) (attempts : List ProviderAttempt)
  | recordChatFailure (latencyMs : UInt64) (attempts : List ProviderAttempt)
      (errorCategory : Option String)
  deriving DecidableEq

namespace MetricsRegistry

/-- Append a sample to a full window by dropping the oldest one first. -/
def pushSample {α : Type} (limit : Nat) (samples : List α) (sample : α) : List α :=
  (if samples.length = limit then samples.tail else samples) ++ [sample]

/-- `record_provider_error_sample`. -/
def recordProviderErrorSample (m : MetricsRegistry) (provider category : String) :
    MetricsRegistry :=
  { m with
    providerErrorSamples := Function.update m.providerErrorSamples provider
      (pushSample maxErrorSamples (m.providerErrorSamples provider) category) }

/-- One turn of the loop of `record_provider_attempts`. -/
def recordProviderAttempt (m : MetricsRegistry) (a : ProviderAttempt) : MetricsRegistry :=
  let p := a.providerName
  let m := { m with
    totalProviderAttempts := m.totalProviderAttempts + 1
    requestsByProvider := m.requestsByProvider.raise p 1
    providerTotalLatencyMs := m.providerTotalLatencyMs.raise p a.latencyMs.toNat
    providerLatencySamplesMs := Function.update m.providerLatencySamplesMs p
      (pushSample maxLatencySamples (m.providerLatencySamplesMs p) a.latencyMs) }
  let m :=
    if a.success then { m with successesByProvider := m.successesByProvider.raise p 1 }
    else
      let m := { m with errorsByProvider := m.errorsByProvider.raise p 1 }
      match a.errorCategory with
      | none => m
      | some category =>
          let m := m.recordProviderErrorSample p category.asStr
          { m with providerErrorsByProviderAndCategory :=
              m.providerErrorsByProviderAndCategory.raise (p, category.asStr) 1 }
  if a.isFallback then
    { m with
      fallbackAttempts := m.fallbackAttempts + 1
      fallbackAttemptsByProvider := m.fallbackAttemptsByProvider.raise p 1 }
  else m

def recordProviderAttempts (m : MetricsRegistry) (attempts : List ProviderAttempt) :
    MetricsRegistry :=
  attempts.foldl recordProviderAttempt m

def recordLatencySample (m : MetricsRegistry) (latencyMs : UInt64) : MetricsRegistry :=
  { m with latencySamplesMs := pushSample maxLatencySamples m.latencySamplesMs latencyMs }

def recordChatSuccess (m : MetricsRegistry) (usage : TokenUsage) (cost : CostEstimate)
    (latencyMs : UInt64) (attempts : List ProviderAttempt) : MetricsRegistry :=
  let m := { m with
    totalRequests := m.totalRequests + 1
    successfulRequests := m.successfulRequests + 1
    estimatedPromptTokens := m.estimatedPromptTokens + usage.promptTokens.toNat
    estimatedCompletionTokens := m.estimatedCompletionTokens + usage.completionTokens.toNat
    estimatedTotalTokens := m.estimatedTotalTokens + usage.totalTokens.toNat
    estimatedInputCostUsd := m.estimatedInputCostUsd + cost.inputCostUsd
    estimatedOutputCostUsd := m.estimatedOutputCostUsd + cost.outputCostUsd
    estimatedTotalCostUsd := m.estimatedTotalCostUsd + cost.totalCostUsd
    totalLatencyMs := m.totalLatencyMs + latencyMs.toNat }
  (m.recordLatencySample latencyMs).recordProviderAttempts attempts

def recordChatFailureWithCategory (m : MetricsRegistry) (latencyMs : UInt64)
    (attempts : List ProviderAttempt) (errorCategory : Option String) : MetricsRegistry :=
  let m := { m with
    totalRequests := m.totalRequests + 1
    failedRequests := m.failedRequests + 1 }
  let m :=
    match errorCategory with
    | some category =>
        { m with requestErrorsByCategory := m.requestErrorsByCategory.raise category 1 }
    | none => m
  let m := { m with totalLatencyMs := m.totalLatencyMs + latencyMs.toNat }
  (m.recordLatencySample latencyMs).recordProviderAttempts attempts

/-- Perform one recording operation. -/
def record (m : MetricsRegistry) : MetricsUpdate → MetricsRegistry
  | .beginRequest => { m with inFlightRequests := min (m.inFlightRequests + 1) (2 ^ 64 - 1) }
  | .endRequest => { m with inFlightRequests := m.inFlightRequests - 1 }
  | .beginProviderRequest p units =>
      { m with
        inFlightRequestsByProvider := m.inFlightRequestsByProvider.raise p 1
        providerQueuePressureUnits := m.providerQueuePressureUnits.raise p units }
  | .endProviderRequest p units =>
      { m with
        inFlightRequestsByProvider := m.inFlightRequestsByProvider.lower p 1
        providerQueuePressureUnits := m.providerQueuePressureUnits.lower p units }
  | .recordProviderTtft p ttftMs =>
      { m with
        providerTtftSamplesMs := Function.update m.providerTtftSamplesMs p
          (pushSample maxLatencySamples (m.providerTtftSamplesMs p) ttftMs) }
  | .recordRoutingDecision policy reason =>
      { m with routingDecisionsByPolicyAndReason :=
          m.routingDecisionsByPolicyAndReason.raise (policy, reason) 1 }
  | .recordPrefixFingerprint outcome =>
      { m with prefixFingerprintsByOutcome := m.prefixFingerprintsByOutcome.raise outcome 1 }
  | .recordAdmissionRejection reason =>
      { m with admissionRejectionsByReason := m.admissionRejectionsByReason.raise reason 1 }
  | .recordCacheLookup outcome =>
      { m with cacheLookupsByOutcome := m.cacheLookupsByOutcome.raise outcome 1 }
  | .recordStreamOutcome outcome durationMs =>
      { m with
        streamOutcomesByOutcome := m.streamOutcomesByOutcome.raise outcome 1
        streamDurationSamplesMs :=
          pushSample maxLatencySamples m.streamDurationSamplesMs durationMs }
  | .recordChatSuccess _ usage cost latencyMs attempts =>
      m.recordChatSuccess usage cost latencyMs attempts
  | .recordChatFailure latencyMs attempts errorCategory =>
      m.recordChatFailureWithCategory latencyMs attempts errorCategory

end MetricsRegistry

/-! ## Windows of samples -/

/-- The last samples of a list, as many as fit in a window. -/
def window {α : Type} (limit : Nat) (samples : List α) : List α :=
  samples.drop (samples.length - limit)

theorem window_eq_self {α : Type} {limit : Nat} {samples : List α} (h : samples.length ≤ limit) :
    window limit samples = samples := by
  unfold window
  rw [Nat.sub_eq_zero_of_le h, List.drop_zero]

/-- A window is moved on by dropping its oldest sample once it is full. -/
theorem pushSample_window {α : Type} {limit : Nat} (hlimit : 0 < limit) (samples : List α)
    (sample : α) :
    MetricsRegistry.pushSample limit (window limit samples) sample =
      window limit (samples ++ [sample]) := by
  unfold MetricsRegistry.pushSample window
  rw [List.length_drop, List.length_append, List.length_singleton]
  by_cases hfull : limit ≤ samples.length
  · rw [if_pos (by omega), List.tail_drop, List.drop_append_of_le_length (by omega)]
    congr 2
    omega
  · rw [if_neg (by omega), List.drop_append_of_le_length (by omega)]
    congr 2
    omega

theorem length_window {α : Type} (limit : Nat) (samples : List α) :
    (window limit samples).length = min samples.length limit := by
  rw [window, List.length_drop]
  omega

end RustyGate
