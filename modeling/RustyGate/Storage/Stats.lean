/-
Statistics from the request log (`stats_snapshot` of `src/storage/sqlite.rs`).

The rows are read in the order in which they were inserted.  The loop over the requests
and the loop over the attempts change different figures, and each of them is closed by
figures that are computed from the sums.
-/
import RustyGate.Storage.RequestLogs
import RustyGate.Telemetry.Snapshot

namespace RustyGate

/-- `percentile_latency` of the log store: the sample at `⌈(n - 1) * percentile⌉`, counted
from zero. -/
def storedPercentileLatency (samples : List UInt64) (percentile : ℚ) : ℚ :=
  if samples.isEmpty then 0
  else
    let index := ⌈((samples.length - 1 : Nat) : ℚ) * percentile⌉.toNat
    (((sortedSamples samples).getD index 0).toNat : ℚ)

/-- What the loops carry from row to row. -/
structure StatsLoop where
  snapshot : MetricsSnapshot := {}
  requestLatencies : List UInt64 := []
  providerLatencies : String → List UInt64 := fun _ => []
  providerTotalLatencyMs : Tally String := ∅

/-- Count an error category, if there is one. -/
def raiseCategory {κ : Type} [DecidableEq κ] (t : Tally κ) : Option κ → Tally κ
  | none => t
  | some category => t.raise category 1

namespace StatsLoop

/-- `COALESCE(column, 0)`, read `as u64`. -/
def tokensRead (column : Option Int64) : Nat := (column.getD 0).toUInt64.toNat

def addRequest (s : StatsLoop) (row : RequestLogRow) : StatsLoop :=
  { s with
    snapshot := { s.snapshot with
      totalRequests := s.snapshot.totalRequests + 1
      successfulRequests := s.snapshot.successfulRequests + if row.status = "success" then 1 else 0
      failedRequests := s.snapshot.failedRequests + if row.status = "success" then 0 else 1
      requestErrorsByCategory := raiseCategory s.snapshot.requestErrorsByCategory row.errorCategory
      avgLatencyMs := s.snapshot.avgLatencyMs + row.latencyMs.toUInt64.toNat
      estimatedPromptTokens := s.snapshot.estimatedPromptTokens + tokensRead row.promptTokens
      estimatedCompletionTokens :=
        s.snapshot.estimatedCompletionTokens + tokensRead row.completionTokens
      estimatedTotalTokens := s.snapshot.estimatedTotalTokens + tokensRead row.totalTokens
      estimatedInputCostUsd := s.snapshot.estimatedInputCostUsd + row.inputCostUsd.getD 0
      estimatedOutputCostUsd := s.snapshot.estimatedOutputCostUsd + row.outputCostUsd.getD 0
      estimatedTotalCostUsd := s.snapshot.estimatedTotalCostUsd + row.totalCostUsd.getD 0 }
    requestLatencies := s.requestLatencies ++ [row.latencyMs.toUInt64] }

def closeRequests (s : StatsLoop) : StatsLoop :=
  { s with
    snapshot := { s.snapshot with
      avgLatencyMs :=
        if 0 < s.snapshot.totalRequests then s.snapshot.avgLatencyMs / s.snapshot.totalRequests
        else s.snapshot.avgLatencyMs
      errorRate :=
        if 0 < s.snapshot.totalRequests then
          (s.snapshot.failedRequests : ℚ) / s.snapshot.totalRequests
        else s.snapshot.errorRate
      p95LatencyMs := storedPercentileLatency s.requestLatencies (95 / 100) } }

def addAttempt (s : StatsLoop) (row : ProviderAttemptRow) : StatsLoop where
  snapshot := { s.snapshot with
    totalProviderAttempts := s.snapshot.totalProviderAttempts + 1
    requestsByProvider := s.snapshot.requestsByProvider.raise row.providerName 1
    successesByProvider :=
      if row.success == 1 then s.snapshot.successesByProvider.raise row.providerName 1
      else s.snapshot.successesByProvider
    errorsByProvider :=
      if row.success == 1 then s.snapshot.errorsByProvider
      else s.snapshot.errorsByProvider.raise row.providerName 1
    providerErrorsByProviderAndCategory :=
      if row.success == 1 then s.snapshot.providerErrorsByProviderAndCategory
      else raiseCategory s.snapshot.providerErrorsByProviderAndCategory
        (row.errorCategory.map fun category => (row.providerName, category))
    fallbackAttempts := s.snapshot.fallbackAttempts + if row.isFallback == 1 then 1 else 0
    fallbackAttemptsByProvider :=
      if row.isFallback == 1 then s.snapshot.fallbackAttemptsByProvider.raise row.providerName 1
      else s.snapshot.fallbackAttemptsByProvider }
  requestLatencies := s.requestLatencies
  providerLatencies := Function.update s.providerLatencies row.providerName
    (s.providerLatencies row.providerName ++ [row.latencyMs.toUInt64])
  providerTotalLatencyMs :=
    s.providerTotalLatencyMs.raise row.providerName row.latencyMs.toUInt64.toNat

def closeAttempts (s : StatsLoop) : MetricsSnapshot :=
  { s.snapshot with
    avgLatencyMsByProvider := fun provider =>
      (s.snapshot.requestsByProvider.lookup provider).map fun (requests : Nat) =>
        (s.providerTotalLatencyMs.count provider : ℚ) / requests
    p95LatencyMsByProvider := fun provider =>
      if (s.providerLatencies provider).isEmpty then none
      else some (storedPercentileLatency (s.providerLatencies provider) (95 / 100)) }

end StatsLoop

namespace SqliteRequestLogStore

def statsSnapshot (store : SqliteRequestLogStore) : MetricsSnapshot :=
  (store.providerAttempts.foldl StatsLoop.addAttempt
    (store.requestLogs.foldl StatsLoop.addRequest {}).closeRequests).closeAttempts

/-! ## No request is lost -/

theorem totalRequests_foldl_addRequest (rows : List RequestLogRow) (s : StatsLoop) :
    (rows.foldl StatsLoop.addRequest s).snapshot.totalRequests =
      s.snapshot.totalRequests + rows.length := by
  induction rows generalizing s with
  | nil => rfl
  | cons row rows ih =>
      rw [List.foldl_cons, ih, List.length_cons]
      show s.snapshot.totalRequests + 1 + rows.length = _
      omega

theorem totalRequests_foldl_addAttempt (rows : List ProviderAttemptRow) (s : StatsLoop) :
    (rows.foldl StatsLoop.addAttempt s).snapshot.totalRequests = s.snapshot.totalRequests := by
  induction rows generalizing s with
  | nil => rfl
  | cons row rows ih => exact ih (s.addAttempt row)

theorem totalRequests_statsSnapshot (store : SqliteRequestLogStore) :
    store.statsSnapshot.totalRequests = store.countRequestLogs := by
  show (store.providerAttempts.foldl StatsLoop.addAttempt _).snapshot.totalRequests = _
  rw [totalRequests_foldl_addAttempt]
  show (store.requestLogs.foldl StatsLoop.addRequest {}).snapshot.totalRequests = _
  rw [totalRequests_foldl_addRequest]
  exact Nat.zero_add _

/-- Every call adds a row for its request and one for each attempt, and the counts are those
of the calls. -/
structure LosesNone (calls : List RecordCall) : Prop where
  adds : ∀ before call, before ++ [call] <+: calls →
    (run {} (before ++ [call])).countRequestLogs = (run {} before).countRequestLogs + 1 ∧
      (run {} (before ++ [call])).countProviderAttempts =
        (run {} before).countProviderAttempts + call.entry.providerAttempts.length
  counts : (run {} calls).countRequestLogs = calls.length
  stats : (run {} calls).statsSnapshot.totalRequests = calls.length

theorem countRequestLogs_of (calls : List RecordCall) :
    (of calls).countRequestLogs = calls.length :=
  List.length_map _

theorem countProviderAttempts_of_append (before : List RecordCall) (call : RecordCall) :
    (of (before ++ [call])).countProviderAttempts =
      (of before).countProviderAttempts + call.entry.providerAttempts.length := by
  unfold countProviderAttempts of
  rw [List.flatMap_append, List.flatMap_singleton, List.length_append, call.length_attemptRows]

/-- The log loses no request exactly when no request id is used twice. -/
theorem losesNone_iff {calls : List RecordCall} (hfresh : Fresh calls) :
    LosesNone calls ↔ (calls.map fun call => call.entry.requestId).Nodup := by
  constructor
  · intro h
    exact nodup_of_length_run hfresh h.counts
  · intro hids
    have hstored : ∀ part, part <+: calls → run {} part = of part := fun part hpart =>
      run_eq_of_nodup (hfresh.sublist hpart.sublist) (hids.sublist (hpart.sublist.map _))
    refine ⟨fun before call hpart => ?_, ?_, ?_⟩
    · rw [hstored _ hpart, hstored before ((List.prefix_append before [call]).trans hpart)]
      refine ⟨?_, countProviderAttempts_of_append before call⟩
      rw [countRequestLogs_of, countRequestLogs_of, List.length_append, List.length_singleton]
    · rw [hstored calls (List.prefix_refl calls), countRequestLogs_of]
    · rw [totalRequests_statsSnapshot, hstored calls (List.prefix_refl calls), countRequestLogs_of]

/-- A request that failed after one attempt, under the id that its client has chosen. -/
def failedCall (requestId attemptId : Uuid) : RecordCall where
  entry := .new 0 requestId "/v1/chat/completions" none none .failure 7 none none (some .timeout)
    [⟨"mock-primary", 1, 7, false, false, some .timeout⟩] {}
  attemptIds := fun _ => attemptId

theorem losesNone_distinct : LosesNone [failedCall 1 10, failedCall 2 11] :=
  (losesNone_iff (by decide +kernel)).mpr (by decide +kernel)

/-- Two clients use the same request id: the second request is not in the log. -/
theorem repeated_request_lost :
    Fresh [failedCall 1 10, failedCall 1 11] ∧ ¬ LosesNone [failedCall 1 10, failedCall 1 11] := by
  have hcount : (run {} [failedCall 1 10, failedCall 1 11]).countRequestLogs = 1 := by
    decide +kernel
  refine ⟨by decide +kernel, fun h => ?_⟩
  have htwo := h.counts
  rw [hcount] at htwo
  cases htwo

end SqliteRequestLogStore

end RustyGate
