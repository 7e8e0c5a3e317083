/-
What the bookkeeping of the routes leaves in a run.

Each recording helper has one lemma that spells its events out, up to those of the
request log, which neither count, charge nor hand out anything (`Op.isPlain`).
-/
import RustyGate.Routes.Shared

namespace RustyGate

open Effect Effect.Program Gateway

def metricsOf : Event Ans → List MetricsUpdate
  | ⟨.metrics update, _⟩ => [update]
  | _ => []

def usageOf : Event Ans → List (String × UInt64 × ℚ)
  | ⟨.recordUsage apiKeyId totalTokens totalCostUsd, _⟩ => [(apiKeyId, totalTokens, totalCostUsd)]
  | _ => []

/-- Neither accounting nor an event for the client nor anything to do with a provider. -/
def Op.isPlain : Op → Bool
  | .unixTimestamp | .recordRequest _ | .elapsedMs _ | .streamElapsedMs | .cachePut _ _ => true
  | _ => false

theorem metricsOf_isPlain {e : Event Ans} (h : e.op.isPlain = true) : metricsOf e = [] := by
  obtain ⟨o, a⟩ := e
  cases o <;> first | rfl | cases h

/-- A stretch of plain events. -/
abbrev Plain (t : List (Event Ans)) : Prop := ∀ e ∈ t, e.op.isPlain = true

theorem Plain.flatMap_eq_nil {γ : Type} {f : Event Ans → List γ}
    (hf : ∀ {e : Event Ans}, e.op.isPlain = true → f e = []) {t : List (Event Ans)}
    (ht : Plain t) : t.flatMap f = [] :=
  List.flatMap_eq_nil_iff.mpr fun e he => hf (ht e he)

section Performs

variable {P : Op → Prop}

theorem lookupCache_performs (hlookup : ∀ outcome, P (.metrics (.recordCacheLookup outcome)))
    (hget : ∀ cacheKey, P (.cacheGet cacheKey)) (state : AppState) (key : AuthenticatedKey)
    (request : ChatCompletionRequest) : (lookupCache state key request).Performs P := by
  unfold lookupCache
  split
  · exact ⟨hlookup _, fun _ => trivial⟩
  · split
    · split
      · refine ⟨hget _, fun response => ?_⟩
        cases response <;> exact ⟨hlookup _, fun _ => trivial⟩
      · exact ⟨hlookup _, fun _ => trivial⟩
    · trivial

theorem storeInCache_performs (hput : ∀ cacheKey response, P (.cachePut cacheKey response))
    (state : AppState) (key : AuthenticatedKey) (request : ChatCompletionRequest)
    (response : ChatCompletionResponse) :
    (storeInCache state key request response).Performs P := by
  unfold storeInCache
  split
  · split
    · exact ⟨hput .., fun _ => trivial⟩
    · trivial
  · trivial

end Performs

section

variable {σ : Type} (h : (o : Op) → σ → Ans o × σ) (s : σ)

theorem log_performs (subject : Subject) (finalProvider : Option String) (status : RequestLogStatus)
    (latencyMs : UInt64) (usage : Option TokenUsage) (cost : Option CostEstimate)
    (category : Option RequestErrorCategory) (attempts : List ProviderAttempt) :
    (subject.log finalProvider status latencyMs usage cost category attempts).Performs
      fun o => o.isPlain = true := by
  unfold Subject.log recordRequestMetadata
  refine ⟨rfl, fun now => ?_⟩
  split
  · exact ⟨rfl, fun _ => trivial⟩
  · trivial

theorem recordFailedRequest_trace (subject : Subject) (rejected : Option AdmissionRejectionReason)
    (category : Option RequestErrorCategory) (attempts : List ProviderAttempt) :
    ∃ latencyMs logged, Plain logged ∧
      ((recordFailedRequest subject rejected category attempts).run h s).trace =
        ⟨.elapsedMs none, latencyMs⟩ ::
          ((rejected.map fun reason =>
              ⟨.metrics (.recordAdmissionRejection reason.asStr), ()⟩).toList ++
            ⟨.metrics (.recordChatFailure latencyMs attempts (category.map (·.asStr))), ()⟩ ::
              logged) := by
  cases rejected with
  | none => exact ⟨(h (.elapsedMs none) s).1, _, (log_performs ..).mem_trace h _, rfl⟩
  | some reason => exact ⟨(h (.elapsedMs none) s).1, _, (log_performs ..).mem_trace h _, rfl⟩

theorem recordSucceededRequest_trace (subject : Subject) (key : AuthenticatedKey)
    (provider : String) (usage : TokenUsage) (cost : CostEstimate) (latencyMs : UInt64)
    (attempts : List ProviderAttempt) :
    ∃ logged, Plain logged ∧
      ((recordSucceededRequest subject key provider usage cost latencyMs attempts).run h s).trace =
        ⟨.metrics (.recordChatSuccess provider usage cost latencyMs attempts), ()⟩ ::
          (logged ++ [⟨.recordUsage key.id usage.totalTokens.toUInt64 cost.totalCostUsd, ()⟩]) := by
  unfold recordSucceededRequest
  rw [bind_eq_bind, perform_bind, run_op, bind_eq_bind, run_bind]
  exact ⟨_, (log_performs ..).mem_trace h _, rfl⟩

namespace StreamJob

variable (job : StreamJob)

theorem recordFailedStream_trace (finish : StreamEnd) (latencyMs : UInt64) :
    ∃ durationMs logged, Plain logged ∧
      ((job.recordFailedStream finish latencyMs).run h s).trace =
        ⟨.streamElapsedMs, durationMs⟩ ::
          ⟨.metrics (.recordStreamOutcome (finish.outcome.getD .midStreamFailure).asStr
            durationMs), ()⟩ ::
          ⟨.metrics (.recordChatFailure latencyMs finish.attempts
            (some (finish.errorCategory.getD .providerBadResponse).asStr)), ()⟩ :: logged :=
  ⟨(h .streamElapsedMs s).1, _, (log_performs ..).mem_trace h _, rfl⟩

theorem recordSucceededStream_trace (usage : TokenUsage) (attempts : List ProviderAttempt)
    (latencyMs : UInt64) :
    let cost := job.success.pricing.estimateCost usage.promptTokens usage.completionTokens
    ∃ durationMs logged, Plain logged ∧
      ((job.recordSucceededStream usage attempts latencyMs).run h s).trace =
        ⟨.streamElapsedMs, durationMs⟩ ::
          ⟨.metrics (.recordStreamOutcome StreamOutcome.completed.asStr durationMs), ()⟩ ::
          ⟨.metrics (.recordChatSuccess job.success.providerName usage cost latencyMs attempts),
            ()⟩ ::
          (logged ++
            [⟨.recordUsage job.key.id usage.totalTokens.toUInt64 cost.totalCostUsd, ()⟩]) := by
  intro cost
  obtain ⟨logged, hlogged, htrace⟩ := recordSucceededRequest_trace h
    (h (.metrics (.recordStreamOutcome StreamOutcome.completed.asStr
      (h .streamElapsedMs s).1)) (h .streamElapsedMs s).2).2 job.subject job.key
    job.success.providerName usage cost latencyMs attempts
  refine ⟨(h .streamElapsedMs s).1, logged, hlogged, ?_⟩
  rw [← htrace]
  rfl

end StreamJob
end
end RustyGate
