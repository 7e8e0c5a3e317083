/-
The metrics as Prometheus reads them (`src/telemetry/prometheus.rs`).

The text has a line for every number of a snapshot, and two lines of comment before each metric.
A label's value may be any string: a name out of the configuration, a model that a client asked
for.  Three replacements escape it, and in their order none touches what another one wrote
(`toList_escapeLabelValue`).  So the labels of a line are read back as they were, and the text
is read as the entries of the snapshot's maps, each once.

The numbers are of any type, and the text of a number is a parameter.
-/
import RustyGate.Collections.OrdMap
import RustyGate.Telemetry.Snapshot
import RustyGate.Text.Exposition
import Mathlib.Data.String.Basic

namespace RustyGate

/-- The part of a snapshot that is rendered.  Its maps are sorted by their keys. -/
structure RenderedSnapshot (F : Type) where
  totalRequests : Nat := 0
  successfulRequests : Nat := 0
  failedRequests : Nat := 0
  inFlightRequests : Nat := 0
  errorRate : F
  avgLatencyMs : F
  p95LatencyMs : F
  totalProviderAttempts : Nat := 0
  fallbackAttempts : Nat := 0
  estimatedTotalTokens : Nat := 0
  estimatedTotalCostUsd : F
  cacheHitRatio : F
  p95StreamDurationMs : F
  cacheLookupsByOutcome : OrdMap String Nat := .empty
  streamOutcomesByOutcome : OrdMap String Nat := .empty
  requestErrorsByCategory : OrdMap String Nat := .empty
  admissionRejectionsByReason : OrdMap String Nat := .empty
  requestsByProvider : OrdMap String Nat := .empty
  successesByProvider : OrdMap String Nat := .empty
  providerErrorsByProviderAndCategory : OrdMap String (OrdMap String Nat) := .empty
  avgLatencyMsByProvider : OrdMap String F := .empty
  p95LatencyMsByProvider : OrdMap String F := .empty
  inFlightRequestsByProvider : OrdMap String Nat := .empty
  p50TtftMsByProvider : OrdMap String F := .empty
  p95TtftMsByProvider : OrdMap String F := .empty
  queuePressureByProvider : OrdMap String F := .empty
  routingDecisionsByPolicyAndReason : OrdMap String (OrdMap String Nat) := .empty
  prefixFingerprintsByOutcome : OrdMap String Nat := .empty

/-- A tally in the order of its keys. -/
def listed (t : Tally String) : OrdMap String Nat := .ofFun t.keys t.lookup

/-- A tally of pairs, in the order of their first parts and then of their second ones. -/
def listedPairs (t : Tally (String × String)) : OrdMap String (OrdMap String Nat) :=
  .ofFun (t.keys.map Prod.fst) fun key =>
    some (.ofFun ((t.keys.filter fun pair => pair.1 = key).map Prod.snd)
      fun inner => t.lookup (key, inner))

/-- What is rendered of a snapshot of the counters, if its maps have no other providers than
these. -/
def MetricsSnapshot.rendered {F : Type} (ofRat : ℚ → F) (providers : List String)
    (s : MetricsSnapshot) : RenderedSnapshot F where
  totalRequests := s.totalRequests
  successfulRequests := s.successfulRequests
  failedRequests := s.failedRequests
  inFlightRequests := s.inFlightRequests
  errorRate := ofRat s.errorRate
  avgLatencyMs := ofRat s.avgLatencyMs
  p95LatencyMs := ofRat s.p95LatencyMs
  totalProviderAttempts := s.totalProviderAttempts
  fallbackAttempts := s.fallbackAttempts
  estimatedTotalTokens := s.estimatedTotalTokens
  estimatedTotalCostUsd := ofRat s.estimatedTotalCostUsd
  cacheHitRatio := ofRat s.cacheHitRatio
  p95StreamDurationMs := ofRat s.p95StreamDurationMs
  cacheLookupsByOutcome := listed s.cacheLookupsByOutcome
  streamOutcomesByOutcome := listed s.streamOutcomesByOutcome
  requestErrorsByCategory := listed s.requestErrorsByCategory
  admissionRejectionsByReason := listed s.admissionRejectionsByReason
  requestsByProvider := listed s.requestsByProvider
  successesByProvider := listed s.successesByProvider
  providerErrorsByProviderAndCategory := listedPairs s.providerErrorsByProviderAndCategory
  avgLatencyMsByProvider := .map ofRat (.ofFun providers s.avgLatencyMsByProvider)
  p95LatencyMsByProvider := .map ofRat (.ofFun providers s.p95LatencyMsByProvider)
  inFlightRequestsByProvider := listed s.inFlightRequestsByProvider
  p50TtftMsByProvider := .map ofRat (.ofFun providers s.p50TtftMsByProvider)
  p95TtftMsByProvider := .map ofRat (.ofFun providers s.p95TtftMsByProvider)
  queuePressureByProvider := .map ofRat (.ofFun providers s.queuePressureByProvider)
  routingDecisionsByPolicyAndReason := listedPairs s.routingDecisionsByPolicyAndReason
  prefixFingerprintsByOutcome := listed s.prefixFingerprintsByOutcome

theorem get?_listed (t : Tally String) (key : String) : (listed t).get? key = t.lookup key := by
  rw [listed, OrdMap.get?_ofFun]
  split
  · rfl
  · rename_i hkey
    exact (AList.lookup_eq_none.mpr hkey).symm

theorem get?_listedPairs (t : Tally (String × String)) (key inner : String) :
    ((listedPairs t).get? key).bind (·.get? inner) = t.lookup (key, inner) := by
  have hmem : ∀ {n : Nat}, t.lookup (key, inner) = some n → (key, inner) ∈ t.keys := fun hn =>
    AList.lookup_isSome.mp (Option.isSome_of_eq_some hn)
  rw [listedPairs, OrdMap.get?_ofFun]
  cases hlookup : t.lookup (key, inner) with
  | none =>
      split
      · rw [Option.bind_some, OrdMap.get?_ofFun, hlookup, ite_self]
      · rfl
  | some n =>
      have hpair := hmem hlookup
      rw [if_pos (List.mem_map.mpr ⟨_, hpair, rfl⟩), Option.bind_some, OrdMap.get?_ofFun, if_pos,
        hlookup]
      exact List.mem_map.mpr ⟨_, List.mem_filter.mpr ⟨hpair, decide_eq_true rfl⟩, rfl⟩

/-- `str::replace` of a character. -/
def replaceChar (c : Char) (replacement value : String) : String :=
  String.ofList (value.toList.flatMap fun c' => if c' = c then replacement.toList else [c'])

def escapeLabelValue (value : String) : String :=
  replaceChar '"' "\\\"" (replaceChar '\n' "\\n" (replaceChar '\\' "\\\\" value))

def writeLabeledHeader (output name help kind : String) : String :=
  let output := output ++ "# HELP " ++ name ++ " " ++ help ++ "\n"
  output ++ "# TYPE " ++ name ++ " " ++ kind ++ "\n"

section Numbers

variable {F : Type} (asF64 : Nat → F) (formatPrometheusNumber : F → String)

def writeMetric (output name help kind : String) (value : F) : String :=
  writeLabeledHeader output name help kind ++ name ++ " " ++ formatPrometheusNumber value ++ "\n"

/-- The labels are numbered, and there is a comma before each but the first. -/
def writeLabel (output : String) (label : (String × String) × Nat) : String :=
  let output := if label.2 > 0 then output ++ "," else output
  output ++ label.1.1 ++ "=\"" ++ escapeLabelValue label.1.2 ++ "\""

def writeLabeledMetric (output name : String) (labels : List (String × String)) (value : F) :
    String :=
  let output := output ++ name ++ "\x7b"
  let output := labels.zipIdx.foldl writeLabel output
  output ++ "\x7d " ++ formatPrometheusNumber value ++ "\n"

/-! ## Metrics -/

/-- A metric with one number. -/
structure ScalarMetric (F : Type) where
  name : String
  help : String
  kind : String
  value : F

/-- A metric with labels, and its numbers. -/
structure LabeledMetric (F : Type) where
  name : String
  help : String
  kind : String
  rows : List (List (String × String) × F)

/-- The entries of a map, each under its key. -/
def labeledRows (label : String) (entries : OrdMap String F) : List (List (String × String) × F) :=
  entries.entries.map fun entry => ([(label, entry.1)], entry.2)

/-- The entries of the maps in a map, each under both keys. -/
def nestedRows (outer inner : String) (entries : OrdMap String (OrdMap String F)) :
    List (List (String × String) × F) :=
  entries.entries.flatMap fun entry =>
    entry.2.entries.map fun innerEntry => ([(outer, entry.1), (inner, innerEntry.1)], innerEntry.2)

variable (snapshot : RenderedSnapshot F)

def scalarMetrics : List (ScalarMetric F) :=
  [⟨"rustygate_requests_total", "Total chat requests handled by the gateway.", "counter",
      asF64 snapshot.totalRequests⟩,
    ⟨"rustygate_requests_success_total", "Total successful chat requests handled by the gateway.",
      "counter", asF64 snapshot.successfulRequests⟩,
    ⟨"rustygate_requests_failed_total", "Total failed chat requests handled by the gateway.",
      "counter", asF64 snapshot.failedRequests⟩,
    ⟨"rustygate_in_flight_requests", "Current in-flight chat requests.", "gauge",
      asF64 snapshot.inFlightRequests⟩,
    ⟨"rustygate_request_error_rate", "Ratio of failed chat requests to total chat requests.",
      "gauge", snapshot.errorRate⟩,
    ⟨"rustygate_request_latency_ms_avg", "Average chat request latency in milliseconds.", "gauge",
      snapshot.avgLatencyMs⟩,
    ⟨"rustygate_request_latency_ms_p95", "P95 chat request latency in milliseconds.", "gauge",
      snapshot.p95LatencyMs⟩,
    ⟨"rustygate_provider_attempts_total", "Total provider attempts made by the gateway.",
      "counter", asF64 snapshot.totalProviderAttempts⟩,
    ⟨"rustygate_fallback_attempts_total",
      "Total fallback provider attempts made by the gateway.", "counter",
      asF64 snapshot.fallbackAttempts⟩,
    ⟨"rustygate_estimated_tokens_total", "Total estimated tokens processed by the gateway.",
      "counter", asF64 snapshot.estimatedTotalTokens⟩,
    ⟨"rustygate_estimated_cost_usd_total", "Total estimated token cost in USD.", "counter",
      snapshot.estimatedTotalCostUsd⟩,
    ⟨"rustygate_cache_hit_ratio",
      "Ratio of exact or semantic cache hits to cache hits plus misses.", "gauge",
      snapshot.cacheHitRatio⟩,
    ⟨"rustygate_stream_duration_ms_p95",
      "P95 completed or terminated stream duration in milliseconds.", "gauge",
      snapshot.p95StreamDurationMs⟩]

def labeledMetrics : List (LabeledMetric F) :=
  [⟨"rustygate_cache_lookups_total", "Response cache lookups by outcome.", "counter",
      labeledRows "outcome" (snapshot.cacheLookupsByOutcome.map asF64)⟩,
    ⟨"rustygate_stream_outcomes_total", "Streaming requests by terminal outcome.", "counter",
      labeledRows "outcome" (snapshot.streamOutcomesByOutcome.map asF64)⟩,
    ⟨"rustygate_request_errors_total", "Chat request errors by category.", "counter",
      labeledRows "category" (snapshot.requestErrorsByCategory.map asF64)⟩,
    ⟨"rustygate_admission_rejections_total", "Admission-control rejections by reason.", "counter",
      labeledRows "reason" (snapshot.admissionRejectionsByReason.map asF64)⟩,
    ⟨"rustygate_provider_requests_total", "Provider attempts by provider.", "counter",
      labeledRows "provider" (snapshot.requestsByProvider.map asF64)⟩,
    ⟨"rustygate_provider_successes_total", "Provider successful attempts by provider.", "counter",
      labeledRows "provider" (snapshot.successesByProvider.map asF64)⟩,
    ⟨"rustygate_provider_errors_total", "Provider failed attempts by provider and category.",
      "counter", nestedRows "provider" "category"
        (snapshot.providerErrorsByProviderAndCategory.map (·.map asF64))⟩,
    ⟨"rustygate_provider_latency_ms_avg", "Average provider attempt latency in milliseconds.",
      "gauge", labeledRows "provider" snapshot.avgLatencyMsByProvider⟩,
    ⟨"rustygate_provider_latency_ms_p95", "P95 provider attempt latency in milliseconds.",
      "gauge", labeledRows "provider" snapshot.p95LatencyMsByProvider⟩,
    ⟨"rustygate_provider_in_flight_requests",
      "Current in-flight provider attempts by provider.", "gauge",
      labeledRows "provider" (snapshot.inFlightRequestsByProvider.map asF64)⟩,
    ⟨"rustygate_provider_ttft_ms_p50",
      "P50 provider time to first token for streaming attempts in milliseconds.", "gauge",
      labeledRows "provider" snapshot.p50TtftMsByProvider⟩,
    ⟨"rustygate_provider_ttft_ms_p95",
      "P95 provider time to first token for streaming attempts in milliseconds.", "gauge",
      labeledRows "provider" snapshot.p95TtftMsByProvider⟩,
    ⟨"rustygate_provider_queue_pressure",
      "Approximate provider queue pressure based on active requests and estimated tokens.",
      "gauge", labeledRows "provider" snapshot.queuePressureByProvider⟩,
    ⟨"rustygate_routing_decisions_total", "Routing decisions by policy and reason.", "counter",
      nestedRows
        "policy" "reason" (snapshot.routingDecisionsByPolicyAndReason.map (·.map asF64))⟩,
    ⟨"rustygate_prefix_fingerprints_total", "Prefix fingerprint decisions by aggregate outcome.",
      "counter", labeledRows "outcome" (snapshot.prefixFingerprintsByOutcome.map asF64)⟩]

def writeScalarMetric (output : String) (metric : ScalarMetric F) : String :=
  writeMetric formatPrometheusNumber output metric.name metric.help metric.kind metric.value

def writeLabeledRows (output : String) (metric : LabeledMetric F) : String :=
  metric.rows.foldl
    (fun output row => writeLabeledMetric formatPrometheusNumber output metric.name row.1 row.2)
    (writeLabeledHeader output metric.name metric.help metric.kind)

def renderPrometheus : String :=
  (labeledMetrics asF64 snapshot).foldl (writeLabeledRows formatPrometheusNumber)
    ((scalarMetrics asF64 snapshot).foldl (writeScalarMetric formatPrometheusNumber) "")

end Numbers

/-! ## The text of a line -/

open Exposition

theorem toList_replaceChar (c : Char) (replacement value : String) :
    (replaceChar c replacement value).toList =
      value.toList.flatMap fun c' => if c' = c then replacement.toList else [c'] :=
  String.toList_ofList

/-- The backslashes come first, so that the ones of the later replacements stay single. -/
theorem toList_escapeLabelValue (value : String) :
    (escapeLabelValue value).toList = escape value.toList := by
  unfold escapeLabelValue escape
  rw [toList_replaceChar, toList_replaceChar, toList_replaceChar, List.flatMap_assoc,
    List.flatMap_assoc]
  refine List.flatMap_congr fun c _ => ?_
  unfold escapeChar
  by_cases hbackslash : c = '\\'
  · subst hbackslash
    decide +kernel
  by_cases hfeed : c = '\n'
  · subst hfeed
    decide +kernel
  by_cases hquote : c = '"'
  · subst hquote
    decide +kernel
  simp [hbackslash, hfeed, hquote]

theorem toList_writeLabel (output : String) (label : String × String) (index : Nat) :
    (writeLabel output (label, index)).toList =
      output.toList ++ (if index > 0 then [','] else []) ++ labelText label := by
  unfold writeLabel labelText
  by_cases hindex : index > 0
  · simp [hindex, toList_escapeLabelValue]
  · simp [hindex, toList_escapeLabelValue]

/-- Every label but the first has a comma before it. -/
theorem toList_foldl_writeLabel_succ (labels : List (String × String)) (output : String)
    (index : Nat) :
    ((labels.zipIdx (index + 1)).foldl writeLabel output).toList =
      output.toList ++ labels.flatMap fun label => ',' :: labelText label := by
  induction labels generalizing output index with
  | nil => simp
  | cons label labels ih =>
      rw [List.zipIdx_cons, List.foldl_cons, ih, toList_writeLabel, if_pos (Nat.succ_pos index)]
      simp

theorem toList_foldl_writeLabel (labels : List (String × String)) (output : String) :
    (labels.zipIdx.foldl writeLabel output).toList = output.toList ++ labelsText labels := by
  cases labels with
  | nil => simp [labelsText]
  | cons label labels =>
      rw [List.zipIdx_cons, List.foldl_cons, toList_foldl_writeLabel_succ, toList_writeLabel]
      simp [labelsText]

variable {F : Type} {asF64 : Nat → F} {formatPrometheusNumber : F → String}

theorem toList_writeLabeledMetric (output name : String) (labels : List (String × String))
    (value : F) :
    (writeLabeledMetric formatPrometheusNumber output name labels value).toList =
      output.toList ++ (sampleText name labels (formatPrometheusNumber value) ++ ['\n']) := by
  unfold writeLabeledMetric sampleText
  simp [toList_foldl_writeLabel]

end RustyGate
