/-
What the counters say (`MetricsRegistry::snapshot` in `src/telemetry/metrics.rs`).

The maps whose values are computed are functions to an option here.  A provider without
samples has no entry in the maps of samples.
-/
import RustyGate.Telemetry.Metrics
import Mathlib.Algebra.Order.Floor.Ring
import Mathlib.Data.Rat.Floor

namespace RustyGate

structure MetricsSnapshot where
  totalRequests : Nat := 0
  successfulRequests : Nat := 0
  failedRequests : Nat := 0
  inFlightRequests : Nat := 0
  totalProviderAttempts : Nat := 0
  fallbackAttempts : Nat := 0
  errorRate : ℚ := 0
  avgLatencyMs : ℚ := 0
  p95LatencyMs : ℚ := 0
  estimatedPromptTokens : Nat := 0
  estimatedCompletionTokens : Nat := 0
  estimatedTotalTokens : Nat := 0
  estimatedInputCostUsd : ℚ := 0
  estimatedOutputCostUsd : ℚ := 0
  estimatedTotalCostUsd : ℚ := 0
  requestsByProvider : Tally String := ∅
  successesByProvider : Tally String := ∅
  errorsByProvider : Tally String := ∅
  fallbackAttemptsByProvider : Tally String := ∅
  requestErrorsByCategory : Tally String := ∅
  providerErrorsByProviderAndCategory : Tally (String × String) := ∅
  recentProviderErrorsByProviderAndCategory : String → Option (Tally String) := fun _ => none
  admissionRejectionsByReason : Tally String := ∅
  avgLatencyMsByProvider : String → Option ℚ := fun _ => none
  p95LatencyMsByProvider : String → Option ℚ := fun _ => none
  inFlightRequestsByProvider : Tally String := ∅
  p50TtftMsByProvider : String → Option ℚ := fun _ => none
  p95TtftMsByProvider : String → Option ℚ := fun _ => none
  queuePressureByProvider : String → Option ℚ := fun _ => none
  routingDecisionsByPolicyAndReason : Tally (String × String) := ∅
  prefixFingerprintsByOutcome : Tally String := ∅
  cacheLookupsByOutcome : Tally String := ∅
  cacheHitRatio : ℚ := 0
  streamOutcomesByOutcome : Tally String := ∅
  p95StreamDurationMs : ℚ := 0

def sortedSamples (samples : List UInt64) : List UInt64 :=
  samples.mergeSort fun left right => left ≤ right

/-- `percentile_latency` of the metrics: the sample of the rank `⌈n * percentile⌉`. -/
def percentileLatency (samples : List UInt64) (percentile : ℚ) : ℚ :=
  if samples.isEmpty then 0
  else
    let percentileIndex := ⌈(samples.length : ℚ) * percentile⌉.toNat - 1
    (((sortedSamples samples).getD percentileIndex 0).toNat : ℚ)

/-- The percentile of each provider that has samples. -/
def percentilesOf (samples : String → List UInt64) (percentile : ℚ) (provider : String) :
    Option ℚ :=
  if (samples provider).isEmpty then none
  else some (percentileLatency (samples provider) percentile)

namespace MetricsRegistry

def errorRate (m : MetricsRegistry) : ℚ :=
  if m.totalRequests = 0 then 0 else (m.failedRequests : ℚ) / m.totalRequests

def avgLatencyMs (m : MetricsRegistry) : ℚ :=
  if m.totalRequests = 0 then 0 else (m.totalLatencyMs : ℚ) / m.totalRequests

def avgLatencyMsByProvider (m : MetricsRegistry) (provider : String) : Option ℚ :=
  (m.requestsByProvider.lookup provider).map fun (requests : Nat) =>
    if requests = 0 then 0 else (m.providerTotalLatencyMs.count provider : ℚ) / requests

def queuePressureByProvider (m : MetricsRegistry) (provider : String) : Option ℚ :=
  (m.providerQueuePressureUnits.lookup provider).map fun (pressure : Nat) => (pressure : ℚ)

def recentProviderErrorsByProviderAndCategory (m : MetricsRegistry) (provider : String) :
    Option (Tally String) :=
  if (m.providerErrorSamples provider).isEmpty then none
  else some ((m.providerErrorSamples provider).foldl (fun t category => t.raise category 1) ∅)

def cacheHitRatio (m : MetricsRegistry) : ℚ :=
  let hits := m.cacheLookupsByOutcome.count "hit"
  let total := hits + m.cacheLookupsByOutcome.count "miss"
  if total = 0 then 0 else (hits : ℚ) / total

def snapshot (m : MetricsRegistry) : MetricsSnapshot where
  totalRequests := m.totalRequests
  successfulRequests := m.successfulRequests
  failedRequests := m.failedRequests
  inFlightRequests := m.inFlightRequests
  totalProviderAttempts := m.totalProviderAttempts
  fallbackAttempts := m.fallbackAttempts
  errorRate := m.errorRate
  avgLatencyMs := m.avgLatencyMs
  p95LatencyMs := percentileLatency m.latencySamplesMs (95 / 100)
  estimatedPromptTokens := m.estimatedPromptTokens
  estimatedCompletionTokens := m.estimatedCompletionTokens
  estimatedTotalTokens := m.estimatedTotalTokens
  estimatedInputCostUsd := m.estimatedInputCostUsd
  estimatedOutputCostUsd := m.estimatedOutputCostUsd
  estimatedTotalCostUsd := m.estimatedTotalCostUsd
  requestsByProvider := m.requestsByProvider
  successesByProvider := m.successesByProvider
  errorsByProvider := m.errorsByProvider
  fallbackAttemptsByProvider := m.fallbackAttemptsByProvider
  requestErrorsByCategory := m.requestErrorsByCategory
  providerErrorsByProviderAndCategory := m.providerErrorsByProviderAndCategory
  recentProviderErrorsByProviderAndCategory := m.recentProviderErrorsByProviderAndCategory
  admissionRejectionsByReason := m.admissionRejectionsByReason
  avgLatencyMsByProvider := m.avgLatencyMsByProvider
  p95LatencyMsByProvider := percentilesOf m.providerLatencySamplesMs (95 / 100)
  inFlightRequestsByProvider := m.inFlightRequestsByProvider
  p50TtftMsByProvider := percentilesOf m.providerTtftSamplesMs (50 / 100)
  p95TtftMsByProvider := percentilesOf m.providerTtftSamplesMs (95 / 100)
  queuePressureByProvider := m.queuePressureByProvider
  routingDecisionsByPolicyAndReason := m.routingDecisionsByPolicyAndReason
  prefixFingerprintsByOutcome := m.prefixFingerprintsByOutcome
  cacheLookupsByOutcome := m.cacheLookupsByOutcome
  cacheHitRatio := m.cacheHitRatio
  streamOutcomesByOutcome := m.streamOutcomesByOutcome
  p95StreamDurationMs := percentileLatency m.streamDurationSamplesMs (95 / 100)

end MetricsRegistry
end RustyGate
