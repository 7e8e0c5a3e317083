/-
The snapshot that the statistics routes serve (`stats_snapshot` in `src/routes/stats.rs`).

With a request log it is read from the stored rows, and the fields that the rows say
nothing about are copied from memory, one by one.  A field of the stored snapshot says
something about the rows if it differs between two stores (`StatsField.Computed`).  Two of
the others are missing from the list of copies: the lookups in the response cache and the
ratio of hits.
-/
import RustyGate.Storage.Percentiles

namespace RustyGate

/-- `memory_snapshot`; the lock is poisoned if there are no metrics. -/
def memorySnapshot (metrics : Option MetricsRegistry) : MetricsSnapshot :=
  (metrics.map MetricsRegistry.snapshot).getD {}

/-- `stats_snapshot`, given the request log store, if there is one, and what reading it
answers. -/
def statsSnapshot (requestLogStore : Option (Except StorageError SqliteRequestLogStore))
    (metrics : Option MetricsRegistry) : MetricsSnapshot :=
  let snapshot :=
    match requestLogStore with
    | some (.ok store) => store.statsSnapshot
    | some (.error _) => memorySnapshot metrics
    | none => memorySnapshot metrics
  let memory := memorySnapshot metrics
  { snapshot with
    inFlightRequests := memory.inFlightRequests
    inFlightRequestsByProvider := memory.inFlightRequestsByProvider
    p50TtftMsByProvider := memory.p50TtftMsByProvider
    p95TtftMsByProvider := memory.p95TtftMsByProvider
    queuePressureByProvider := memory.queuePressureByProvider
    admissionRejectionsByReason := memory.admissionRejectionsByReason
    routingDecisionsByPolicyAndReason := memory.routingDecisionsByPolicyAndReason
    prefixFingerprintsByOutcome := memory.prefixFingerprintsByOutcome
    streamOutcomesByOutcome := memory.streamOutcomesByOutcome
    p95StreamDurationMs := memory.p95StreamDurationMs
    recentProviderErrorsByProviderAndCategory :=
      memory.recentProviderErrorsByProviderAndCategory }

/-! ## The fields of a snapshot -/

/-- The fields of `MetricsSnapshot`. -/
inductive StatsField where
  | totalRequests | successfulRequests | failedRequests | inFlightRequests
  | totalProviderAttempts | fallbackAttempts | errorRate | avgLatencyMs | p95LatencyMs
  | estimatedPromptTokens | estimatedCompletionTokens | estimatedTotalTokens
  | estimatedInputCostUsd | estimatedOutputCostUsd | estimatedTotalCostUsd
  | requestsByProvider | successesByProvider | errorsByProvider | fallbackAttemptsByProvider
  | requestErrorsByCategory | providerErrorsByProviderAndCategory
  | recentProviderErrorsByProviderAndCategory | admissionRejectionsByReason
  | avgLatencyMsByProvider | p95LatencyMsByProvider | inFlightRequestsByProvider
  | p50TtftMsByProvider | p95TtftMsByProvider | queuePressureByProvider
  | routingDecisionsByPolicyAndReason | prefixFingerprintsByOutcome
  | cacheLookupsByOutcome | cacheHitRatio | streamOutcomesByOutcome | p95StreamDurationMs

namespace StatsField

/-- The type of a field. -/
abbrev Value : StatsField → Type
  | totalRequests | successfulRequests | failedRequests | inFlightRequests
  | totalProviderAttempts | fallbackAttempts
  | estimatedPromptTokens | estimatedCompletionTokens | estimatedTotalTokens => Nat
  | errorRate | avgLatencyMs | p95LatencyMs
  | estimatedInputCostUsd | estimatedOutputCostUsd | estimatedTotalCostUsd
  | cacheHitRatio | p95StreamDurationMs => ℚ
  | requestsByProvider | successesByProvider | errorsByProvider | fallbackAttemptsByProvider
  | requestErrorsByCategory | admissionRejectionsByReason | inFlightRequestsByProvider
  | prefixFingerprintsByOutcome | cacheLookupsByOutcome | streamOutcomesByOutcome => Tally String
  | providerErrorsByProviderAndCategory
  | routingDecisionsByPolicyAndReason => Tally (String × String)
  | recentProviderErrorsByProviderAndCategory => String → Option (Tally String)
  | avgLatencyMsByProvider | p95LatencyMsByProvider | p50TtftMsByProvider
  | p95TtftMsByProvider | queuePressureByProvider => String → Option ℚ

/-- The value of a field. -/
def read (s : MetricsSnapshot) : (f : StatsField) → f.Value
  | totalRequests => s.totalRequests
  | successfulRequests => s.successfulRequests
  | failedRequests => s.failedRequests
  | inFlightRequests => s.inFlightRequests
  | totalProviderAttempts => s.totalProviderAttempts
  | fallbackAttempts => s.fallbackAttempts
  | errorRate => s.errorRate
  | avgLatencyMs => s.avgLatencyMs
  | p95LatencyMs => s.p95LatencyMs
  | estimatedPromptTokens => s.estimatedPromptTokens
  | estimatedCompletionTokens => s.estimatedCompletionTokens
  | estimatedTotalTokens => s.estimatedTotalTokens
  | estimatedInputCostUsd => s.estimatedInputCostUsd
  | estimatedOutputCostUsd => s.estimatedOutputCostUsd
  | estimatedTotalCostUsd => s.estimatedTotalCostUsd
  | requestsByProvider => s.requestsByProvider
  | successesByProvider => s.successesByProvider
  | errorsByProvider => s.errorsByProvider
  | fallbackAttemptsByProvider => s.fallbackAttemptsByProvider
  | requestErrorsByCategory => s.requestErrorsByCategory
  | providerErrorsByProviderAndCategory => s.providerErrorsByProviderAndCategory
  | recentProviderErrorsByProviderAndCategory => s.recentProviderErrorsByProviderAndCategory
  | admissionRejectionsByReason => s.admissionRejectionsByReason
  | avgLatencyMsByProvider => s.avgLatencyMsByProvider
  | p95LatencyMsByProvider => s.p95LatencyMsByProvider
  | inFlightRequestsByProvider => s.inFlightRequestsByProvider
  | p50TtftMsByProvider => s.p50TtftMsByProvider
  | p95TtftMsByProvider => s.p95TtftMsByProvider
  | queuePressureByProvider => s.queuePressureByProvider
  | routingDecisionsByPolicyAndReason => s.routingDecisionsByPolicyAndReason
  | prefixFingerprintsByOutcome => s.prefixFingerprintsByOutcome
  | cacheLookupsByOutcome => s.cacheLookupsByOutcome
  | cacheHitRatio => s.cacheHitRatio
  | streamOutcomesByOutcome => s.streamOutcomesByOutcome
  | p95StreamDurationMs => s.p95StreamDurationMs

/-- The rows of the log say something about the field. -/
def Computed (f : StatsField) : Prop :=
  ∃ store store' : SqliteRequestLogStore, f.read store.statsSnapshot ≠ f.read store'.statsSnapshot

/-! ## Which fields the rows say something about -/

/-- The fields that are measured in memory only. -/
def inMemory : StatsField → Bool
  | inFlightRequests | recentProviderErrorsByProviderAndCategory | admissionRejectionsByReason
  | inFlightRequestsByProvider | p50TtftMsByProvider | p95TtftMsByProvider
  | queuePressureByProvider | routingDecisionsByPolicyAndReason | prefixFingerprintsByOutcome
  | cacheLookupsByOutcome | cacheHitRatio | streamOutcomesByOutcome | p95StreamDurationMs => true
  | _ => false

section Untouched

variable {f : StatsField} (hf : f.inMemory = true)

include hf

theorem read_addRequest (s : StatsLoop) (row : RequestLogRow) :
    f.read (s.addRequest row).snapshot = f.read s.snapshot := by
  cases f <;> first | rfl | cases hf

theorem read_closeRequests (s : StatsLoop) :
    f.read s.closeRequests.snapshot = f.read s.snapshot := by
  cases f <;> first | rfl | cases hf

theorem read_addAttempt (s : StatsLoop) (row : ProviderAttemptRow) :
    f.read (s.addAttempt row).snapshot = f.read s.snapshot := by
  cases f <;> first | rfl | cases hf

theorem read_closeAttempts (s : StatsLoop) : f.read s.closeAttempts = f.read s.snapshot := by
  cases f <;> first | rfl | cases hf

/-- No row changes such a field. -/
theorem read_statsSnapshot (store : SqliteRequestLogStore) :
    f.read store.statsSnapshot = f.read {} := by
  have hrequests : ∀ (rows : List RequestLogRow) (s : StatsLoop),
      f.read (rows.foldl StatsLoop.addRequest s).snapshot = f.read s.snapshot := by
    intro rows
    induction rows with
    | nil => exact fun _ => rfl
    | cons row rows ih => exact fun s => (ih _).trans (read_addRequest hf s row)
  have hattempts : ∀ (rows : List ProviderAttemptRow) (s : StatsLoop),
      f.read (rows.foldl StatsLoop.addAttempt s).snapshot = f.read s.snapshot := by
    intro rows
    induction rows with
    | nil => exact fun _ => rfl
    | cons row rows ih => exact fun s => (ih _).trans (read_addAttempt hf s row)
  rw [SqliteRequestLogStore.statsSnapshot, read_closeAttempts hf, hattempts,
    read_closeRequests hf, hrequests]

end Untouched

/-- A request that was answered by the second provider it was tried with. -/
def succeeded : SqliteRequestLogStore where
  requestLogs :=
    [{ id := "1", route := "/v1/chat/completions", createdAtUnixSeconds := 0
       requestedModel := none, finalProvider := some "mock-secondary", status := "success"
       latencyMs := 3, promptTokens := some 1, completionTokens := some 1, totalTokens := some 2
       inputCostUsd := some 1, outputCostUsd := some 1, totalCostUsd := some 2
       errorCategory := none, promptMessagesJson := none }]
  providerAttempts :=
    [{ id := "2", requestId := "1", providerName := "mock-secondary", attemptOrder := 2
       success := 1, isFallback := 1, errorCategory := none, latencyMs := 3 }]

/-- A request whose only attempt failed. -/
def failed : SqliteRequestLogStore where
  requestLogs :=
    [{ id := "1", route := "/v1/chat/completions", createdAtUnixSeconds := 0
       requestedModel := none, finalProvider := none, status := "failure"
       latencyMs := 3, promptTokens := none, completionTokens := none, totalTokens := none
       inputCostUsd := none, outputCostUsd := none, totalCostUsd := none
       errorCategory := some "timeout", promptMessagesJson := none }]
  providerAttempts :=
    [{ id := "2", requestId := "1", providerName := "mock-secondary", attemptOrder := 1
       success := 0, isFallback := 0, errorCategory := some "timeout", latencyMs := 3 }]

/-- A field differs if something that is read off it does. -/
theorem computed_of_read {f : StatsField} {α : Type} (store : SqliteRequestLogStore)
    (look : f.Value → α)
    (h : look (f.read store.statsSnapshot) ≠
      look (f.read ({} : SqliteRequestLogStore).statsSnapshot)) : f.Computed :=
  ⟨store, {}, fun heq => h (congrArg look heq)⟩

theorem storedPercentileLatency_one (sample : UInt64) :
    storedPercentileLatency [sample] (95 / 100) = (sample.toNat : ℚ) := by
  rw [storedPercentileLatency_ninetyFive (List.cons_ne_nil _ _)]
  simp [sortedSamples]

theorem computed_of_inMemory_eq_false {f : StatsField} (hf : f.inMemory = false) : f.Computed := by
  cases f with
  | totalRequests | successfulRequests | totalProviderAttempts | fallbackAttempts
  | avgLatencyMs | estimatedPromptTokens | estimatedCompletionTokens | estimatedTotalTokens
  | estimatedInputCostUsd | estimatedOutputCostUsd | estimatedTotalCostUsd =>
      exact computed_of_read succeeded id (by decide +kernel)
  | failedRequests | errorRate => exact computed_of_read failed id (by decide +kernel)
  | requestsByProvider | successesByProvider | fallbackAttemptsByProvider =>
      exact computed_of_read succeeded (Tally.count · "mock-secondary") (by decide +kernel)
  | errorsByProvider =>
      exact computed_of_read failed (Tally.count · "mock-secondary") (by decide +kernel)
  | requestErrorsByCategory =>
      exact computed_of_read failed (Tally.count · "timeout") (by decide +kernel)
  | providerErrorsByProviderAndCategory =>
      exact computed_of_read failed (Tally.count · ("mock-secondary", "timeout"))
        (by decide +kernel)
  | avgLatencyMsByProvider =>
      exact computed_of_read succeeded (· "mock-secondary") (by decide +kernel)
  | p95LatencyMsByProvider =>
      exact computed_of_read succeeded (fun value => (value "mock-secondary").isSome)
        (by decide +kernel)
  | p95LatencyMs =>
      apply computed_of_read succeeded id
      show storedPercentileLatency [3] (95 / 100) ≠ storedPercentileLatency [] (95 / 100)
      rw [storedPercentileLatency_one]
      decide +kernel
  | _ => cases hf

/-- The rows say nothing about exactly the fields that are measured in memory only. -/
theorem computed_iff (f : StatsField) : f.Computed ↔ f.inMemory = false := by
  refine ⟨fun ⟨store, store', hne⟩ => ?_, computed_of_inMemory_eq_false⟩
  rw [Bool.eq_false_iff]
  intro hf
  exact hne ((read_statsSnapshot hf store).trans (read_statsSnapshot hf store').symm)

end StatsField

/-! ## What is served -/

theorem cacheHitRatio_memorySnapshot {metrics : Option MetricsRegistry}
    (h : (memorySnapshot metrics).cacheLookupsByOutcome = ∅) :
    (memorySnapshot metrics).cacheHitRatio = 0 := by
  cases metrics with
  | none => rfl
  | some m =>
      have hm : m.cacheLookupsByOutcome = ∅ := h
      show m.cacheHitRatio = 0
      simp [MetricsRegistry.cacheHitRatio, hm]

/-- What is measured in memory only is served from memory exactly if the log cannot be read,
or no lookup in the response cache has been counted. -/
theorem served_from_memory_iff (requestLogStore : Except StorageError SqliteRequestLogStore)
    (metrics : Option MetricsRegistry) :
    (∀ f : StatsField, ¬ f.Computed →
      f.read (statsSnapshot (some requestLogStore) metrics) = f.read (memorySnapshot metrics)) ↔
    (∃ error, requestLogStore = .error error) ∨
      (memorySnapshot metrics).cacheLookupsByOutcome = ∅ := by
  cases requestLogStore with
  | error error => exact ⟨fun _ => .inl ⟨error, rfl⟩, fun _ f _ => by cases f <;> rfl⟩
  | ok store =>
      have hlookups : store.statsSnapshot.cacheLookupsByOutcome = ∅ :=
        StatsField.read_statsSnapshot (f := .cacheLookupsByOutcome) rfl store
      have hratio : store.statsSnapshot.cacheHitRatio = 0 :=
        StatsField.read_statsSnapshot (f := .cacheHitRatio) rfl store
      constructor
      · intro hserved
        have hcopied := hserved .cacheLookupsByOutcome
          fun hcomputed => by cases (StatsField.computed_iff _).mp hcomputed
        exact .inr (hcopied.symm.trans hlookups)
      · rintro (⟨error, herror⟩ | hempty) f hf
        · cases herror
        · rw [StatsField.computed_iff, Bool.not_eq_false] at hf
          cases f with
          | cacheLookupsByOutcome => exact hlookups.trans hempty.symm
          | cacheHitRatio => exact hratio.trans (cacheHitRatio_memorySnapshot hempty).symm
          | _ => first | rfl | cases hf

/-- One miss has been counted, and the statistics say that there was no lookup. -/
theorem cache_miss_not_served :
    let metrics : MetricsRegistry := { cacheLookupsByOutcome := (∅ : Tally String).raise "miss" 1 }
    ¬ StatsField.cacheLookupsByOutcome.Computed ∧
      (memorySnapshot (some metrics)).cacheLookupsByOutcome.count "miss" = 1 ∧
      (statsSnapshot (some (.ok {})) (some metrics)).cacheLookupsByOutcome.count "miss" = 0 := by
  refine ⟨fun hcomputed => ?_, by decide +kernel, by decide +kernel⟩
  cases (StatsField.computed_iff _).mp hcomputed

end RustyGate
