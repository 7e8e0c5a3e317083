/-
What holds of the counters after any recordings (`src/telemetry/metrics.rs`).

The totals and the maps by provider are raised together, attempt by attempt
(`AttemptsAgree.attempt`), so they keep agreeing.  A buffer of samples is a window over the
values that have been recorded for it (`pushAll_window`): which values those are is read off
the recordings, one list for each buffer.
-/
import RustyGate.Telemetry.Metrics

namespace RustyGate

namespace MetricsUpdate

/-- `record_success`: one attempt, which has succeeded. -/
def recordSuccess (providerName : String) (usage : TokenUsage) (costEstimate : CostEstimate)
    (latencyMs : UInt64) : MetricsUpdate :=
  .recordChatSuccess providerName usage costEstimate latencyMs
    [⟨providerName, 1, latencyMs, true, false, none⟩]

/-- `record_failure`: one attempt, which has failed without a category. -/
def recordFailure (providerName : String) (latencyMs : UInt64) : MetricsUpdate :=
  .recordChatFailure latencyMs [⟨providerName, 1, latencyMs, false, false, none⟩] none

/-- The attempts that an update records. -/
def attempts : MetricsUpdate → List ProviderAttempt
  | .recordChatSuccess _ _ _ _ attempts => attempts
  | .recordChatFailure _ attempts _ => attempts
  | _ => []

/-- What an update records besides its attempts. -/
def withoutAttempts : MetricsUpdate → MetricsUpdate
  | .recordChatSuccess provider usage cost latencyMs _ =>
      .recordChatSuccess provider usage cost latencyMs []
  | .recordChatFailure latencyMs _ errorCategory => .recordChatFailure latencyMs [] errorCategory
  | update => update

end MetricsUpdate

namespace ProviderAttempt

/-- The category under which an attempt is sampled as an error. -/
def sampledError (a : ProviderAttempt) : Option String :=
  if a.success then none else a.errorCategory.map (·.asStr)

end ProviderAttempt

namespace MetricsRegistry

/-! ## What an attempt changes -/

/-- All that an attempt changes, field by field. -/
theorem recordProviderAttempt_eq (m : MetricsRegistry) (a : ProviderAttempt) :
    m.recordProviderAttempt a =
      { m with
        totalProviderAttempts := m.totalProviderAttempts + 1
        requestsByProvider := m.requestsByProvider.raise a.providerName 1
        providerTotalLatencyMs := m.providerTotalLatencyMs.raise a.providerName a.latencyMs.toNat
        providerLatencySamplesMs := Function.update m.providerLatencySamplesMs a.providerName
          (pushSample maxLatencySamples (m.providerLatencySamplesMs a.providerName) a.latencyMs)
        successesByProvider :=
          if a.success then m.successesByProvider.raise a.providerName 1
          else m.successesByProvider
        errorsByProvider :=
          if a.success then m.errorsByProvider else m.errorsByProvider.raise a.providerName 1
        providerErrorSamples :=
          match a.sampledError with
          | none => m.providerErrorSamples
          | some category => Function.update m.providerErrorSamples a.providerName
              (pushSample maxErrorSamples (m.providerErrorSamples a.providerName) category)
        providerErrorsByProviderAndCategory :=
          match a.sampledError with
          | none => m.providerErrorsByProviderAndCategory
          | some category =>
              m.providerErrorsByProviderAndCategory.raise (a.providerName, category) 1
        fallbackAttempts := m.fallbackAttempts + if a.isFallback then 1 else 0
        fallbackAttemptsByProvider :=
          if a.isFallback then m.fallbackAttemptsByProvider.raise a.providerName 1
          else m.fallbackAttemptsByProvider } := by
  unfold recordProviderAttempt ProviderAttempt.sampledError
  cases a.success <;> cases a.errorCategory <;> cases a.isFallback <;> rfl

/-- What an attempt does not change, a list of attempts does not. -/
theorem recordProviderAttempts_frame {β : Type} (field : MetricsRegistry → β)
    (h : ∀ m a, field (m.recordProviderAttempt a) = field m) (m : MetricsRegistry)
    (attempts : List ProviderAttempt) : field (m.recordProviderAttempts attempts) = field m := by
  induction attempts generalizing m with
  | nil => rfl
  | cons a rest ih => exact (ih (m.recordProviderAttempt a)).trans (h m a)

/-- The attempts are recorded last. -/
theorem record_eq_attempts (m : MetricsRegistry) (update : MetricsUpdate) :
    m.record update =
      (m.record update.withoutAttempts).recordProviderAttempts update.attempts := by
  cases update with
  | recordChatFailure latencyMs attempts errorCategory => cases errorCategory <;> rfl
  | _ => rfl

theorem record_frame {β : Type} (field : MetricsRegistry → β)
    (h : ∀ m a, field (m.recordProviderAttempt a) = field m) (m : MetricsRegistry)
    (update : MetricsUpdate) :
    field (m.record update) = field (m.record update.withoutAttempts) := by
  rw [record_eq_attempts]
  exact recordProviderAttempts_frame field h _ _

/-! ## Counters -/

/-- The sum of the error categories of a provider. -/
def categorizedErrors (m : MetricsRegistry) (provider : String) : Nat :=
  m.providerErrorsByProviderAndCategory.totalOf fun key => key.1 == provider

/-- The counters of the attempts agree. -/
structure AttemptsAgree (m : MetricsRegistry) : Prop where
  attempts_eq : m.totalProviderAttempts = m.requestsByProvider.total
  requests_eq : ∀ provider, m.requestsByProvider.count provider =
    m.successesByProvider.count provider + m.errorsByProvider.count provider
  categories_le : ∀ provider, m.categorizedErrors provider ≤ m.errorsByProvider.count provider
  fallbacks_eq : m.fallbackAttempts = m.fallbackAttemptsByProvider.total

variable {m : MetricsRegistry}

/-- Only an error is sampled under a category. -/
theorem categorizedErrors_attempt (m : MetricsRegistry) (a : ProviderAttempt) (provider : String) :
    (m.recordProviderAttempt a).categorizedErrors provider ≤ m.categorizedErrors provider +
      if a.success = false ∧ a.providerName = provider then 1 else 0 := by
  unfold categorizedErrors
  rw [recordProviderAttempt_eq]
  unfold ProviderAttempt.sampledError
  cases a.success with
  | true => simp
  | false =>
      cases a.errorCategory with
      | none => exact Nat.le_add_right _ _
      | some category =>
          simp only [Bool.false_eq_true, if_false, Option.map_some]
          rw [Tally.totalOf_raise]
          simp

theorem AttemptsAgree.attempt (h : m.AttemptsAgree) (a : ProviderAttempt) :
    (m.recordProviderAttempt a).AttemptsAgree := by
  have hcategories := m.categorizedErrors_attempt a
  rw [recordProviderAttempt_eq] at hcategories ⊢
  constructor
  case attempts_eq =>
    show m.totalProviderAttempts + 1 = (m.requestsByProvider.raise a.providerName 1).total
    rw [Tally.total_raise, h.attempts_eq]
  case requests_eq =>
    intro provider
    have hsum := h.requests_eq provider
    simp only [Tally.count_raise]
    cases a.success
    · simp only [Bool.false_eq_true, if_false, Tally.count_raise]
      omega
    · simp only [if_true, Tally.count_raise]
      omega
  case categories_le =>
    intro provider
    have hle := h.categories_le provider
    have hstep := hcategories provider
    refine Nat.le_trans hstep ?_
    cases a.success
    · simp only [Bool.false_eq_true, if_false, Tally.count_raise, true_and]
      omega
    · simp only [if_true, Bool.true_eq_false, false_and, if_false]
      omega
  case fallbacks_eq =>
    have hfallbacks := h.fallbacks_eq
    cases a.isFallback
    · exact hfallbacks
    · simp only [if_true, Tally.total_raise, hfallbacks]

theorem AttemptsAgree.attempts (h : m.AttemptsAgree) (attempts : List ProviderAttempt) :
    (m.recordProviderAttempts attempts).AttemptsAgree := by
  induction attempts generalizing m with
  | nil => exact h
  | cons a rest ih => exact ih (h.attempt a)

theorem AttemptsAgree.record (h : m.AttemptsAgree) (update : MetricsUpdate) :
    (m.record update).AttemptsAgree := by
  obtain ⟨hattempts, hrequests, hcategories, hfallbacks⟩ := h
  rw [record_eq_attempts]
  apply AttemptsAgree.attempts
  cases update with
  | recordChatFailure latencyMs attempts errorCategory =>
      cases errorCategory <;> exact ⟨hattempts, hrequests, hcategories, hfallbacks⟩
  | _ => exact ⟨hattempts, hrequests, hcategories, hfallbacks⟩

end MetricsRegistry

/-! ## Samples -/

section Samples

variable {α : Type} {limit : Nat}

/-- Values pushed one after another, each into the buffer of its provider. -/
def pushAll (limit : Nat) (samples : String → List α) (values : List (String × α)) :
    String → List α :=
  values.foldl (fun samples value => Function.update samples value.1
    (MetricsRegistry.pushSample limit (samples value.1) value.2)) samples

/-- The values of one provider. -/
def valuesAt (provider : String) (values : List (String × α)) : List α :=
  (values.filter fun value => value.1 = provider).map Prod.snd

theorem valuesAt_concat (provider : String) (values : List (String × α)) (value : String × α) :
    valuesAt provider (values ++ [value]) =
      valuesAt provider values ++ if value.1 = provider then [value.2] else [] := by
  rw [valuesAt, List.filter_append, List.map_append, ← valuesAt]
  by_cases hp : value.1 = provider <;> simp [hp]

/-- What is pushed moves the windows over the values so far on. -/
theorem pushAll_window (hlimit : 0 < limit) (past values : List (String × α)) :
    pushAll limit (fun provider => window limit (valuesAt provider past)) values =
      fun provider => window limit (valuesAt provider (past ++ values)) := by
  induction values generalizing past with
  | nil => rw [List.append_nil, pushAll, List.foldl_nil]
  | cons value rest ih =>
      rw [pushAll, List.foldl_cons, List.append_cons past value rest, ← ih (past ++ [value]),
        pushAll]
      congr 1
      funext provider
      rw [valuesAt_concat]
      by_cases hp : value.1 = provider
      · subst hp
        rw [Function.update_self, if_pos rfl, pushSample_window hlimit]
      · rw [Function.update_of_ne (Ne.symm hp), if_neg hp, List.append_nil]

theorem pushAll_append (samples : String → List α) (values values' : List (String × α)) :
    pushAll limit samples (values ++ values') =
      pushAll limit (pushAll limit samples values) values' := List.foldl_append

/-- A buffer into which each step of a run pushes some values. -/
theorem foldl_pushAll {σ ε : Type} (step : σ → ε → σ) (buffer : σ → String → List α)
    (values : ε → List (String × α))
    (hstep : ∀ s e, buffer (step s e) = pushAll limit (buffer s) (values e)) (s : σ)
    (events : List ε) :
    buffer (events.foldl step s) = pushAll limit (buffer s) (events.flatMap values) := by
  induction events generalizing s with
  | nil => rfl
  | cons e rest ih => rw [List.foldl_cons, ih, hstep, List.flatMap_cons, pushAll_append]

/-- The same from empty buffers. -/
theorem foldl_window {σ ε : Type} (hlimit : 0 < limit) (step : σ → ε → σ)
    (buffer : σ → String → List α) (values : ε → List (String × α))
    (hstep : ∀ s e, buffer (step s e) = pushAll limit (buffer s) (values e)) {s : σ}
    (hstart : buffer s = fun _ => []) (events : List ε) (provider : String) :
    buffer (events.foldl step s) provider =
      window limit (valuesAt provider (events.flatMap values)) := by
  have hempty : buffer s = fun provider => window limit (valuesAt provider []) := by
    rw [hstart]
    funext provider
    exact (window_eq_self (Nat.zero_le _)).symm
  rw [foldl_pushAll step buffer values hstep, hempty, pushAll_window hlimit, List.nil_append]

theorem foldl_pushSample_window (hlimit : 0 < limit) (past values : List α) :
    values.foldl (MetricsRegistry.pushSample limit) (window limit past) =
      window limit (past ++ values) := by
  induction values generalizing past with
  | nil => rw [List.append_nil, List.foldl_nil]
  | cons value rest ih =>
      rw [List.foldl_cons, pushSample_window hlimit, ih, List.append_cons past value rest]

/-- One buffer for all providers. -/
theorem foldl_window_one {σ ε : Type} (hlimit : 0 < limit) (step : σ → ε → σ)
    (buffer : σ → List α) (values : ε → List α)
    (hstep : ∀ s e, buffer (step s e) =
      (values e).foldl (MetricsRegistry.pushSample limit) (buffer s)) {s : σ} {past : List α}
    (hstart : buffer s = window limit past) (events : List ε) :
    buffer (events.foldl step s) = window limit (past ++ events.flatMap values) := by
  induction events generalizing s past with
  | nil => rw [List.flatMap_nil, List.append_nil, List.foldl_nil, hstart]
  | cons e rest ih =>
      have hnext : buffer (step s e) = window limit (past ++ values e) := by
        rw [hstep, hstart, foldl_pushSample_window hlimit]
      rw [List.foldl_cons, ih hnext, List.flatMap_cons, List.append_assoc]

end Samples

namespace MetricsUpdate

/-- The latency of a request that has ended. -/
def latencies : MetricsUpdate → List UInt64
  | .recordChatSuccess _ _ _ latencyMs _ => [latencyMs]
  | .recordChatFailure latencyMs _ _ => [latencyMs]
  | _ => []

def streamDurations : MetricsUpdate → List UInt64
  | .recordStreamOutcome _ durationMs => [durationMs]
  | _ => []

def ttfts : MetricsUpdate → List (String × UInt64)
  | .recordProviderTtft provider ttftMs => [(provider, ttftMs)]
  | _ => []

def providerLatencies (update : MetricsUpdate) : List (String × UInt64) :=
  update.attempts.map fun a => (a.providerName, a.latencyMs)

def providerErrors (update : MetricsUpdate) : List (String × String) :=
  update.attempts.filterMap fun a => a.sampledError.map fun category => (a.providerName, category)

end MetricsUpdate

namespace MetricsRegistry

theorem providerLatencySamplesMs_attempts (m : MetricsRegistry) (attempts : List ProviderAttempt) :
    (m.recordProviderAttempts attempts).providerLatencySamplesMs =
      pushAll maxLatencySamples m.providerLatencySamplesMs
        (attempts.map fun a => (a.providerName, a.latencyMs)) := by
  rw [List.map_eq_flatMap]
  apply foldl_pushAll recordProviderAttempt (·.providerLatencySamplesMs)
  intro m a
  rw [recordProviderAttempt_eq]
  rfl

theorem providerErrorSamples_attempts (m : MetricsRegistry) (attempts : List ProviderAttempt) :
    (m.recordProviderAttempts attempts).providerErrorSamples =
      pushAll maxErrorSamples m.providerErrorSamples
        (attempts.filterMap fun a =>
          a.sampledError.map fun category => (a.providerName, category)) := by
  rw [List.filterMap_eq_flatMap_toList]
  apply foldl_pushAll recordProviderAttempt (·.providerErrorSamples)
  intro m a
  rw [recordProviderAttempt_eq]
  cases a.sampledError <;> rfl

/-! ## Any history -/

/-- The totals of the requests agree. -/
def RequestsAgree (m : MetricsRegistry) : Prop :=
  m.totalRequests = m.successfulRequests + m.failedRequests

theorem RequestsAgree.record {m : MetricsRegistry} (h : m.RequestsAgree) (update : MetricsUpdate) :
    (m.record update).RequestsAgree := by
  rw [record_frame RequestsAgree (fun m a => by rw [recordProviderAttempt_eq]; rfl)]
  unfold RequestsAgree at h
  cases update with
  | recordChatSuccess provider usage cost latencyMs attempts =>
      show m.totalRequests + 1 = m.successfulRequests + 1 + m.failedRequests
      omega
  | recordChatFailure latencyMs attempts errorCategory =>
      cases errorCategory <;>
      · show m.totalRequests + 1 = m.successfulRequests + (m.failedRequests + 1)
        omega
  | _ => exact h

section Buffers

variable (m : MetricsRegistry) (update : MetricsUpdate)

theorem providerLatencySamplesMs_record :
    (m.record update).providerLatencySamplesMs =
      pushAll maxLatencySamples m.providerLatencySamplesMs update.providerLatencies := by
  rw [record_eq_attempts, providerLatencySamplesMs_attempts]
  cases update with
  | recordChatFailure latencyMs attempts errorCategory => cases errorCategory <;> rfl
  | _ => rfl

theorem providerErrorSamples_record :
    (m.record update).providerErrorSamples =
      pushAll maxErrorSamples m.providerErrorSamples update.providerErrors := by
  rw [record_eq_attempts, providerErrorSamples_attempts]
  cases update with
  | recordChatFailure latencyMs attempts errorCategory => cases errorCategory <;> rfl
  | _ => rfl

theorem providerTtftSamplesMs_record :
    (m.record update).providerTtftSamplesMs =
      pushAll maxLatencySamples m.providerTtftSamplesMs update.ttfts := by
  rw [record_frame (·.providerTtftSamplesMs) (fun m a => by rw [recordProviderAttempt_eq])]
  cases update with
  | recordChatFailure latencyMs attempts errorCategory => cases errorCategory <;> rfl
  | _ => rfl

theorem latencySamplesMs_record :
    (m.record update).latencySamplesMs =
      update.latencies.foldl (pushSample maxLatencySamples) m.latencySamplesMs := by
  rw [record_frame (·.latencySamplesMs) (fun m a => by rw [recordProviderAttempt_eq])]
  cases update with
  | recordChatFailure latencyMs attempts errorCategory => cases errorCategory <;> rfl
  | _ => rfl

theorem streamDurationSamplesMs_record :
    (m.record update).streamDurationSamplesMs =
      update.streamDurations.foldl (pushSample maxLatencySamples) m.streamDurationSamplesMs := by
  rw [record_frame (·.streamDurationSamplesMs) (fun m a => by rw [recordProviderAttempt_eq])]
  cases update with
  | recordChatFailure latencyMs attempts errorCategory => cases errorCategory <;> rfl
  | _ => rfl

end Buffers

/-- Each buffer holds the last values that the history has recorded for it. -/
structure SampledFrom (history : List MetricsUpdate) (m : MetricsRegistry) : Prop where
  latency : m.latencySamplesMs =
    window maxLatencySamples (history.flatMap MetricsUpdate.latencies)
  streamDuration : m.streamDurationSamplesMs =
    window maxLatencySamples (history.flatMap MetricsUpdate.streamDurations)
  ttft : ∀ provider, m.providerTtftSamplesMs provider =
    window maxLatencySamples (valuesAt provider (history.flatMap MetricsUpdate.ttfts))
  providerLatency : ∀ provider, m.providerLatencySamplesMs provider =
    window maxLatencySamples (valuesAt provider (history.flatMap MetricsUpdate.providerLatencies))
  providerError : ∀ provider, m.providerErrorSamples provider =
    window maxErrorSamples (valuesAt provider (history.flatMap MetricsUpdate.providerErrors))

theorem sampledFrom_history (history : List MetricsUpdate) :
    SampledFrom history (history.foldl record {}) where
  latency := foldl_window_one (by decide) record (·.latencySamplesMs) _ latencySamplesMs_record
    (window_eq_self (Nat.zero_le _)).symm history
  streamDuration := foldl_window_one (by decide) record (·.streamDurationSamplesMs) _
    streamDurationSamplesMs_record (window_eq_self (Nat.zero_le _)).symm history
  ttft := foldl_window (by decide) record (·.providerTtftSamplesMs) _
    providerTtftSamplesMs_record rfl history
  providerLatency := foldl_window (by decide) record (·.providerLatencySamplesMs) _
    providerLatencySamplesMs_record rfl history
  providerError := foldl_window (by decide) record (·.providerErrorSamples) _
    providerErrorSamples_record rfl history

theorem agree_history (history : List MetricsUpdate) :
    (history.foldl record {}).RequestsAgree ∧ (history.foldl record {}).AttemptsAgree := by
  apply List.foldlRecOn (motive := fun m : MetricsRegistry => m.RequestsAgree ∧ m.AttemptsAgree)
  · exact ⟨rfl, rfl, fun _ => rfl, fun _ => Nat.le_refl _, rfl⟩
  · intro m hm update _
    exact ⟨hm.1.record update, hm.2.record update⟩

/-- After any recordings the counters agree, and each buffer is the last 1024 of the values
recorded for it. -/
theorem recorded_consistent (history : List MetricsUpdate) :
    let m := history.foldl record {}
    m.totalRequests = m.successfulRequests + m.failedRequests ∧
      m.totalProviderAttempts = m.requestsByProvider.total ∧
      (∀ provider, m.requestsByProvider.count provider =
        m.successesByProvider.count provider + m.errorsByProvider.count provider) ∧
      (∀ provider, m.categorizedErrors provider ≤ m.errorsByProvider.count provider) ∧
      m.fallbackAttempts = m.fallbackAttemptsByProvider.total ∧
      maxLatencySamples = 1024 ∧ maxErrorSamples = 1024 ∧ SampledFrom history m := by
  obtain ⟨hrequests, hattempts⟩ := agree_history history
  exact ⟨hrequests, hattempts.attempts_eq, hattempts.requests_eq, hattempts.categories_le,
    hattempts.fallbacks_eq, rfl, rfl, sampledFrom_history history⟩

end MetricsRegistry
end RustyGate
