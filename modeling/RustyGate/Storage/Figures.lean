/-
The figures that are kept of a request, in the counters and in the request log.

A request that has ended is recorded twice.  `HandledRequest` is such a request, with what
the routes hand to each side.  The figures that both sides keep for the requests and for the
attempts are those of `RequestFigures`, `TokenFigures` and `AttemptFigures`.  A request
changes them in the same way on both sides, except for the tokens of a stream that broke off
behind its usage, which the counters leave out.
-/
import Mathlib.Data.List.Induction
import RustyGate.Routes.Shared
import RustyGate.Storage.Stats

namespace RustyGate

open Gateway Word

/-- How a request has ended.  A stream that breaks off has a provider, and may have usage. -/
inductive ChatOutcome where
  | success (providerName : String) (usage : TokenUsage) (cost : CostEstimate)
      (latencyMs : UInt64) (attempts : List ProviderAttempt)
  | failure (finalProvider : Option String) (usage : Option TokenUsage) (latencyMs : UInt64)
      (attempts : List ProviderAttempt) (errorCategory : Option RequestErrorCategory)
  deriving DecidableEq

namespace ChatOutcome

/-- What the counters are told. -/
def update : ChatOutcome → MetricsUpdate
  | success providerName usage cost latencyMs attempts =>
      .recordChatSuccess providerName usage cost latencyMs attempts
  | failure _ _ latencyMs attempts errorCategory =>
      .recordChatFailure latencyMs attempts (errorCategory.map (·.asStr))

def finalProvider : ChatOutcome → Option String
  | success providerName _ _ _ _ => some providerName
  | failure finalProvider _ _ _ _ => finalProvider

def status : ChatOutcome → RequestLogStatus
  | success _ _ _ _ _ => .success
  | failure _ _ _ _ _ => .failure

def usage : ChatOutcome → Option TokenUsage
  | success _ usage _ _ _ => some usage
  | failure _ usage _ _ _ => usage

def cost : ChatOutcome → Option CostEstimate
  | success _ _ cost _ _ => some cost
  | failure _ _ _ _ _ => none

def latencyMs : ChatOutcome → UInt64
  | success _ _ _ latencyMs _ => latencyMs
  | failure _ _ latencyMs _ _ => latencyMs

def attempts : ChatOutcome → List ProviderAttempt
  | success _ _ _ _ attempts => attempts
  | failure _ _ _ attempts _ => attempts

def errorCategory : ChatOutcome → Option RequestErrorCategory
  | success _ _ _ _ _ => none
  | failure _ _ _ _ errorCategory => errorCategory

/-- The usage that the counters count. -/
def countedUsage : ChatOutcome → Option TokenUsage
  | success _ usage _ _ _ => some usage
  | failure _ _ _ _ _ => none

end ChatOutcome

/-- The log entry of an outcome. -/
def Subject.logOutcome (s : Subject) (outcome : ChatOutcome) : Gateway Unit :=
  s.log outcome.finalProvider outcome.status outcome.latencyMs outcome.usage outcome.cost
    outcome.errorCategory outcome.attempts

/-! The routes record an outcome on both sides. -/

theorem recordSucceededRequest_eq (s : Subject) (key : AuthenticatedKey) (provider : String)
    (usage : TokenUsage) (cost : CostEstimate) (latencyMs : UInt64)
    (attempts : List ProviderAttempt) :
    recordSucceededRequest s key provider usage cost latencyMs attempts = (do
      metrics (ChatOutcome.success provider usage cost latencyMs attempts).update
      s.logOutcome (.success provider usage cost latencyMs attempts)
      recordApiKeyUsage key usage.totalTokens cost.totalCostUsd) := rfl

theorem recordFailedRequest_eq (s : Subject) (rejected : Option AdmissionRejectionReason)
    (category : Option RequestErrorCategory) (attempts : List ProviderAttempt) :
    recordFailedRequest s rejected category attempts = (do
      let latencyMs ← ask (.elapsedMs none)
      (rejected.map recordAdmissionRejection).getD (.ret ())
      metrics (ChatOutcome.failure none none latencyMs attempts category).update
      s.logOutcome (.failure none none latencyMs attempts category)) := rfl

theorem recordFailedStream_eq (job : StreamJob) (finish : StreamEnd) (latencyMs : UInt64) :
    job.recordFailedStream finish latencyMs = (do
      let outcome := ChatOutcome.failure (some job.success.providerName) finish.usage latencyMs
        finish.attempts (some (finish.errorCategory.getD .providerBadResponse))
      StreamJob.finishMetrics (finish.outcome.getD .midStreamFailure)
      metrics outcome.update
      job.subject.logOutcome outcome) := rfl

/-- A request that has ended, with what its log entry is made of. -/
structure HandledRequest where
  requestId : Uuid
  createdAtUnixSeconds : Int
  route : String
  request : Option ChatCompletionRequest
  config : RequestLoggingConfig
  attemptIds : Nat → Uuid
  outcome : ChatOutcome

namespace HandledRequest

def call (r : HandledRequest) : RecordCall where
  entry := .new r.createdAtUnixSeconds r.requestId r.route r.request r.outcome.finalProvider
    r.outcome.status r.outcome.latencyMs r.outcome.usage r.outcome.cost r.outcome.errorCategory
    r.outcome.attempts r.config
  attemptIds := r.attemptIds

end HandledRequest

/-- The counters after the requests. -/
def countersAfter (requests : List HandledRequest) : MetricsRegistry :=
  requests.foldl (fun m r => m.record r.outcome.update) {}

/-- The log after the requests. -/
def logAfter (requests : List HandledRequest) : SqliteRequestLogStore :=
  SqliteRequestLogStore.run {} (requests.map HandledRequest.call)

/-! ## Figures of requests -/

/-- What both sides keep of the requests, without tokens and latencies. -/
@[ext]
structure RequestFigures where
  totalRequests : Nat
  successfulRequests : Nat
  failedRequests : Nat
  requestErrorsByCategory : Tally String
  totalLatencyMs : ℚ
  inputCostUsd : ℚ
  outputCostUsd : ℚ
  totalCostUsd : ℚ

@[ext]
structure TokenFigures where
  promptTokens : Nat
  completionTokens : Nat
  totalTokens : Nat

def RequestFigures.add (f : RequestFigures) (outcome : ChatOutcome) : RequestFigures where
  totalRequests := f.totalRequests + 1
  successfulRequests := f.successfulRequests + if outcome.status = .success then 1 else 0
  failedRequests := f.failedRequests + if outcome.status = .success then 0 else 1
  requestErrorsByCategory :=
    raiseCategory f.requestErrorsByCategory (outcome.errorCategory.map (·.asStr))
  totalLatencyMs := f.totalLatencyMs + outcome.latencyMs.toNat
  inputCostUsd := f.inputCostUsd + (outcome.cost.map (·.inputCostUsd)).getD 0
  outputCostUsd := f.outputCostUsd + (outcome.cost.map (·.outputCostUsd)).getD 0
  totalCostUsd := f.totalCostUsd + (outcome.cost.map (·.totalCostUsd)).getD 0

def TokenFigures.add (t : TokenFigures) (usage : Option TokenUsage) : TokenFigures where
  promptTokens := t.promptTokens + usage.elim 0 fun usage => usage.promptTokens.toNat
  completionTokens := t.completionTokens + usage.elim 0 fun usage => usage.completionTokens.toNat
  totalTokens := t.totalTokens + usage.elim 0 fun usage => usage.totalTokens.toNat

namespace MetricsRegistry

def requestFigures (m : MetricsRegistry) : RequestFigures where
  totalRequests := m.totalRequests
  successfulRequests := m.successfulRequests
  failedRequests := m.failedRequests
  requestErrorsByCategory := m.requestErrorsByCategory
  totalLatencyMs := m.totalLatencyMs
  inputCostUsd := m.estimatedInputCostUsd
  outputCostUsd := m.estimatedOutputCostUsd
  totalCostUsd := m.estimatedTotalCostUsd

def tokenFigures (m : MetricsRegistry) : TokenFigures where
  promptTokens := m.estimatedPromptTokens
  completionTokens := m.estimatedCompletionTokens
  totalTokens := m.estimatedTotalTokens

/-- An attempt touches nothing that is kept of the requests. -/
theorem recordProviderAttempt_requests (m : MetricsRegistry) (a : ProviderAttempt) :
    (m.recordProviderAttempt a).requestFigures = m.requestFigures ∧
      (m.recordProviderAttempt a).tokenFigures = m.tokenFigures ∧
      (m.recordProviderAttempt a).latencySamplesMs = m.latencySamplesMs := by
  unfold recordProviderAttempt
  cases a.success <;> cases a.errorCategory <;> cases a.isFallback <;> exact ⟨rfl, rfl, rfl⟩

theorem recordProviderAttempts_requests (m : MetricsRegistry) (attempts : List ProviderAttempt) :
    (m.recordProviderAttempts attempts).requestFigures = m.requestFigures ∧
      (m.recordProviderAttempts attempts).tokenFigures = m.tokenFigures ∧
      (m.recordProviderAttempts attempts).latencySamplesMs = m.latencySamplesMs := by
  induction attempts generalizing m with
  | nil => exact ⟨rfl, rfl, rfl⟩
  | cons a attempts ih =>
      obtain ⟨hfigures, htokens, hsamples⟩ := m.recordProviderAttempt_requests a
      obtain ⟨hfigures', htokens', hsamples'⟩ := ih (m.recordProviderAttempt a)
      exact ⟨hfigures'.trans hfigures, htokens'.trans htokens, hsamples'.trans hsamples⟩

/-- What the counters make of an outcome. -/
theorem record_update_requests (m : MetricsRegistry) (outcome : ChatOutcome) :
    (m.record outcome.update).requestFigures = m.requestFigures.add outcome ∧
      (m.record outcome.update).tokenFigures = m.tokenFigures.add outcome.countedUsage ∧
      (m.record outcome.update).latencySamplesMs =
        pushSample maxLatencySamples m.latencySamplesMs outcome.latencyMs := by
  cases outcome with
  | success providerName usage cost latencyMs attempts =>
      obtain ⟨hfigures, htokens, hsamples⟩ := recordProviderAttempts_requests _ attempts
      refine ⟨hfigures.trans ?_, htokens.trans rfl, hsamples.trans rfl⟩
      exact RequestFigures.ext rfl rfl rfl rfl (Nat.cast_add _ _) rfl rfl rfl
  | failure finalProvider usage latencyMs attempts errorCategory =>
      obtain ⟨hfigures, htokens, hsamples⟩ := recordProviderAttempts_requests _ attempts
      refine ⟨hfigures.trans ?_, htokens.trans ?_, hsamples.trans ?_⟩ <;> cases errorCategory
      · exact RequestFigures.ext rfl rfl rfl rfl (Nat.cast_add _ _) (add_zero _).symm
          (add_zero _).symm (add_zero _).symm
      · exact RequestFigures.ext rfl rfl rfl rfl (Nat.cast_add _ _) (add_zero _).symm
          (add_zero _).symm (add_zero _).symm
      all_goals rfl

end MetricsRegistry

namespace StatsLoop

def requestFigures (s : StatsLoop) : RequestFigures where
  totalRequests := s.snapshot.totalRequests
  successfulRequests := s.snapshot.successfulRequests
  failedRequests := s.snapshot.failedRequests
  requestErrorsByCategory := s.snapshot.requestErrorsByCategory
  totalLatencyMs := s.snapshot.avgLatencyMs
  inputCostUsd := s.snapshot.estimatedInputCostUsd
  outputCostUsd := s.snapshot.estimatedOutputCostUsd
  totalCostUsd := s.snapshot.estimatedTotalCostUsd

def tokenFigures (s : StatsLoop) : TokenFigures where
  promptTokens := s.snapshot.estimatedPromptTokens
  completionTokens := s.snapshot.estimatedCompletionTokens
  totalTokens := s.snapshot.estimatedTotalTokens

theorem tokensRead_map (usage : Option TokenUsage) (f : TokenUsage → UInt32) :
    tokensRead (usage.map fun usage => i64OfU32 (f usage)) =
      usage.elim 0 fun usage => (f usage).toNat := by
  cases usage with
  | none => rfl
  | some usage =>
      show (i64OfU32 (f usage)).toUInt64.toNat = (f usage).toNat
      rw [toUInt64_i64OfU32, UInt32.toNat_toUInt64]

/-- What the log makes of an outcome. -/
theorem addRequest_requests (s : StatsLoop) (r : HandledRequest) :
    (s.addRequest r.call.requestRow).requestFigures = s.requestFigures.add r.outcome ∧
      (s.addRequest r.call.requestRow).tokenFigures = s.tokenFigures.add r.outcome.usage ∧
      (s.addRequest r.call.requestRow).requestLatencies =
        s.requestLatencies ++ [r.outcome.latencyMs] := by
  have hlatency : r.call.requestRow.latencyMs.toUInt64 = r.outcome.latencyMs :=
    UInt64.toUInt64_toInt64 _
  have hstatus : r.call.requestRow.status = "success" ↔ r.outcome.status = .success := by
    show r.outcome.status.asStr = "success" ↔ _
    cases r.outcome.status <;> decide
  refine ⟨?_, ?_, ?_⟩
  · refine RequestFigures.ext rfl ?_ ?_ rfl ?_ rfl rfl rfl
    · show _ + (if r.call.requestRow.status = "success" then 1 else 0) = _
      simp only [hstatus]
      rfl
    · show _ + (if r.call.requestRow.status = "success" then 0 else 1) = _
      simp only [hstatus]
      rfl
    · show _ + ((r.call.requestRow.latencyMs.toUInt64.toNat : Nat) : ℚ) = _
      rw [hlatency]
      rfl
  · exact TokenFigures.ext
      (congrArg (s.snapshot.estimatedPromptTokens + ·)
        (tokensRead_map r.outcome.usage (·.promptTokens)))
      (congrArg (s.snapshot.estimatedCompletionTokens + ·)
        (tokensRead_map r.outcome.usage (·.completionTokens)))
      (congrArg (s.snapshot.estimatedTotalTokens + ·)
        (tokensRead_map r.outcome.usage (·.totalTokens)))
  · show s.requestLatencies ++ [r.call.requestRow.latencyMs.toUInt64] = _
    rw [hlatency]

end StatsLoop

/-! ## Figures of attempts -/

/-- What both sides keep of the attempts, without the latencies one by one. -/
@[ext]
structure AttemptFigures where
  totalProviderAttempts : Nat
  requestsByProvider : Tally String
  successesByProvider : Tally String
  errorsByProvider : Tally String
  providerErrorsByProviderAndCategory : Tally (String × String)
  fallbackAttempts : Nat
  fallbackAttemptsByProvider : Tally String
  providerTotalLatencyMs : Tally String

def AttemptFigures.add (f : AttemptFigures) (a : ProviderAttempt) : AttemptFigures where
  totalProviderAttempts := f.totalProviderAttempts + 1
  requestsByProvider := f.requestsByProvider.raise a.providerName 1
  successesByProvider :=
    if a.success then f.successesByProvider.raise a.providerName 1 else f.successesByProvider
  errorsByProvider :=
    if a.success then f.errorsByProvider else f.errorsByProvider.raise a.providerName 1
  providerErrorsByProviderAndCategory :=
    if a.success then f.providerErrorsByProviderAndCategory
    else raiseCategory f.providerErrorsByProviderAndCategory
      (a.errorCategory.map fun category => (a.providerName, category.asStr))
  fallbackAttempts := f.fallbackAttempts + if a.isFallback then 1 else 0
  fallbackAttemptsByProvider :=
    if a.isFallback then f.fallbackAttemptsByProvider.raise a.providerName 1
    else f.fallbackAttemptsByProvider
  providerTotalLatencyMs := f.providerTotalLatencyMs.raise a.providerName a.latencyMs.toNat

namespace MetricsRegistry

def attemptFigures (m : MetricsRegistry) : AttemptFigures where
  totalProviderAttempts := m.totalProviderAttempts
  requestsByProvider := m.requestsByProvider
  successesByProvider := m.successesByProvider
  errorsByProvider := m.errorsByProvider
  providerErrorsByProviderAndCategory := m.providerErrorsByProviderAndCategory
  fallbackAttempts := m.fallbackAttempts
  fallbackAttemptsByProvider := m.fallbackAttemptsByProvider
  providerTotalLatencyMs := m.providerTotalLatencyMs

theorem recordProviderAttempt_attempts (m : MetricsRegistry) (a : ProviderAttempt) :
    (m.recordProviderAttempt a).attemptFigures = m.attemptFigures.add a ∧
      (m.recordProviderAttempt a).providerLatencySamplesMs =
        Function.update m.providerLatencySamplesMs a.providerName
          (pushSample maxLatencySamples (m.providerLatencySamplesMs a.providerName)
            a.latencyMs) := by
  unfold recordProviderAttempt AttemptFigures.add
  cases a.success <;> cases a.errorCategory <;> cases a.isFallback <;> exact ⟨rfl, rfl⟩

end MetricsRegistry

namespace StatsLoop

def attemptFigures (s : StatsLoop) : AttemptFigures where
  totalProviderAttempts := s.snapshot.totalProviderAttempts
  requestsByProvider := s.snapshot.requestsByProvider
  successesByProvider := s.snapshot.successesByProvider
  errorsByProvider := s.snapshot.errorsByProvider
  providerErrorsByProviderAndCategory := s.snapshot.providerErrorsByProviderAndCategory
  fallbackAttempts := s.snapshot.fallbackAttempts
  fallbackAttemptsByProvider := s.snapshot.fallbackAttemptsByProvider
  providerTotalLatencyMs := s.providerTotalLatencyMs

theorem asStr_ofProvider (category : ProviderErrorCategory) :
    (RequestErrorCategory.ofProvider category).asStr = category.asStr := by
  cases category <;> rfl

theorem addAttempt_attempts (s : StatsLoop) (requestId id : Uuid) (a : ProviderAttempt) :
    (s.addAttempt (providerAttemptRow requestId id (.from a))).attemptFigures =
        s.attemptFigures.add a ∧
      (s.addAttempt (providerAttemptRow requestId id (.from a))).providerLatencies =
        Function.update s.providerLatencies a.providerName
          (s.providerLatencies a.providerName ++ [a.latencyMs]) := by
  obtain ⟨providerName, attemptOrder, latencyMs, success, isFallback, errorCategory⟩ := a
  have hlatency : latencyMs.toInt64.toUInt64 = latencyMs := UInt64.toUInt64_toInt64 latencyMs
  have hcategory : ((errorCategory.map RequestErrorCategory.ofProvider).map (·.asStr)).map
      (fun category => (providerName, category)) =
        errorCategory.map fun category => (providerName, category.asStr) := by
    cases errorCategory with
    | none => rfl
    | some category => simp only [Option.map_some, asStr_ofProvider]
  simp only [addAttempt, providerAttemptRow, RequestProviderAttempt.from, attemptFigures,
    AttemptFigures.add, i64OfBool_eq_one, hlatency, hcategory, and_self]

end StatsLoop

/-! ## Whole runs -/

/-- The latencies of the attempts at a provider. -/
def latenciesAt (attempts : List ProviderAttempt) (provider : String) : List UInt64 :=
  (attempts.filter fun a => a.providerName = provider).map (·.latencyMs)

def attemptsOf (requests : List HandledRequest) : List ProviderAttempt :=
  requests.flatMap fun r => r.outcome.attempts

theorem latenciesAt_concat (attempts : List ProviderAttempt) (a : ProviderAttempt) :
    latenciesAt (attempts ++ [a]) =
      Function.update (latenciesAt attempts) a.providerName
        (latenciesAt attempts a.providerName ++ [a.latencyMs]) := by
  funext provider
  unfold latenciesAt
  by_cases h : provider = a.providerName
  · subst h
    simp
  · rw [Function.update_of_ne h]
    simp [Ne.symm h]

def requestFiguresOf (requests : List HandledRequest) : RequestFigures :=
  requests.foldl (fun f r => f.add r.outcome) ⟨0, 0, 0, ∅, 0, 0, 0, 0⟩

def tokenFiguresOf (usages : List (Option TokenUsage)) : TokenFigures :=
  usages.foldl TokenFigures.add ⟨0, 0, 0⟩

def attemptFiguresOf (attempts : List ProviderAttempt) : AttemptFigures :=
  attempts.foldl AttemptFigures.add ⟨0, ∅, ∅, ∅, ∅, 0, ∅, ∅⟩

theorem requestFiguresOf_concat (requests : List HandledRequest) (r : HandledRequest) :
    requestFiguresOf (requests ++ [r]) = (requestFiguresOf requests).add r.outcome := by
  unfold requestFiguresOf
  rw [List.foldl_concat]

theorem tokenFiguresOf_concat (usages : List (Option TokenUsage)) (usage : Option TokenUsage) :
    tokenFiguresOf (usages ++ [usage]) = (tokenFiguresOf usages).add usage := by
  unfold tokenFiguresOf
  rw [List.foldl_concat]

theorem attemptFiguresOf_concat (attempts : List ProviderAttempt) (a : ProviderAttempt) :
    attemptFiguresOf (attempts ++ [a]) = (attemptFiguresOf attempts).add a := by
  unfold attemptFiguresOf
  rw [List.foldl_concat]

/-- The counters after a run have the figures of its requests. -/
theorem countersAfter_requests (requests : List HandledRequest) :
    (countersAfter requests).requestFigures = requestFiguresOf requests ∧
      (countersAfter requests).tokenFigures =
        tokenFiguresOf (requests.map fun r => r.outcome.countedUsage) ∧
      (countersAfter requests).latencySamplesMs =
        window maxLatencySamples (requests.map fun r => r.outcome.latencyMs) := by
  induction requests using List.reverseRecOn with
  | nil => exact ⟨rfl, rfl, rfl⟩
  | append_singleton requests r ih =>
      obtain ⟨hfigures, htokens, hsamples⟩ := ih
      obtain ⟨hfigures', htokens', hsamples'⟩ :=
        (countersAfter requests).record_update_requests r.outcome
      have hstep : countersAfter (requests ++ [r]) =
          (countersAfter requests).record r.outcome.update := List.foldl_concat _ _ _ _
      rw [hstep, hfigures', htokens', hsamples', hfigures, htokens, hsamples,
        pushSample_window (by decide), requestFiguresOf_concat, List.map_append, List.map_append,
        List.map_singleton, List.map_singleton, tokenFiguresOf_concat]
      exact ⟨rfl, rfl, rfl⟩

/-- The log's first loop over the rows of a run has the figures of its requests. -/
theorem foldl_addRequest (requests : List HandledRequest) :
    ((requests.map fun r => r.call.requestRow).foldl StatsLoop.addRequest {}).requestFigures =
        requestFiguresOf requests ∧
      ((requests.map fun r => r.call.requestRow).foldl StatsLoop.addRequest {}).tokenFigures =
        tokenFiguresOf (requests.map fun r => r.outcome.usage) ∧
      ((requests.map fun r => r.call.requestRow).foldl StatsLoop.addRequest {}).requestLatencies =
        requests.map fun r => r.outcome.latencyMs := by
  induction requests using List.reverseRecOn with
  | nil => exact ⟨rfl, rfl, rfl⟩
  | append_singleton requests r ih =>
      obtain ⟨hfigures, htokens, hlatencies⟩ := ih
      rw [List.map_append, List.map_singleton, List.foldl_concat]
      obtain ⟨hfigures', htokens', hlatencies'⟩ :=
        ((requests.map fun r => r.call.requestRow).foldl StatsLoop.addRequest
          {}).addRequest_requests r
      rw [hfigures', htokens', hlatencies', hfigures, htokens, hlatencies, requestFiguresOf_concat,
        List.map_append, List.map_append, List.map_singleton, List.map_singleton,
        tokenFiguresOf_concat]
      exact ⟨rfl, rfl, rfl⟩

/-- The counters have seen the attempts. -/
structure MetricsRegistry.HasSeen (m : MetricsRegistry) (attempts : List ProviderAttempt) :
    Prop where
  figures : m.attemptFigures = attemptFiguresOf attempts
  samples : m.providerLatencySamplesMs = fun provider =>
    window maxLatencySamples (latenciesAt attempts provider)

/-- The log's second loop has seen the attempts. -/
structure StatsLoop.HasSeen (s : StatsLoop) (attempts : List ProviderAttempt) : Prop where
  figures : s.attemptFigures = attemptFiguresOf attempts
  latencies : s.providerLatencies = latenciesAt attempts

variable {seen : List ProviderAttempt}

namespace MetricsRegistry

variable {m : MetricsRegistry}

theorem HasSeen.attempt (h : m.HasSeen seen) (a : ProviderAttempt) :
    (m.recordProviderAttempt a).HasSeen (seen ++ [a]) := by
  obtain ⟨hfigures, hsamples⟩ := m.recordProviderAttempt_attempts a
  refine ⟨?_, ?_⟩
  · rw [hfigures, h.figures, attemptFiguresOf_concat]
  · rw [hsamples, h.samples, latenciesAt_concat, pushSample_window (by decide)]
    funext provider
    by_cases hp : provider = a.providerName
    · subst hp
      rw [Function.update_self, Function.update_self]
    · rw [Function.update_of_ne hp, Function.update_of_ne hp]

theorem HasSeen.attempts (h : m.HasSeen seen) (attempts : List ProviderAttempt) :
    (m.recordProviderAttempts attempts).HasSeen (seen ++ attempts) := by
  induction attempts generalizing m seen with
  | nil => rwa [List.append_nil]
  | cons a attempts ih =>
      have hrest := ih (h.attempt a)
      rwa [List.append_assoc] at hrest

theorem HasSeen.record (h : m.HasSeen seen) (outcome : ChatOutcome) :
    (m.record outcome.update).HasSeen (seen ++ outcome.attempts) := by
  cases outcome with
  | success providerName usage cost latencyMs attempts =>
      refine HasSeen.attempts ⟨?_, ?_⟩ attempts
      · exact h.figures
      · exact h.samples
  | failure finalProvider usage latencyMs attempts errorCategory =>
      refine HasSeen.attempts ⟨?_, ?_⟩ attempts <;> cases errorCategory
      · exact h.figures
      · exact h.figures
      · exact h.samples
      · exact h.samples

end MetricsRegistry

theorem countersAfter_hasSeen (requests : List HandledRequest) :
    (countersAfter requests).HasSeen (attemptsOf requests) := by
  induction requests using List.reverseRecOn with
  | nil => exact ⟨rfl, funext fun _ => (window_eq_self (Nat.zero_le _)).symm⟩
  | append_singleton requests r ih =>
      have hstep : countersAfter (requests ++ [r]) =
          (countersAfter requests).record r.outcome.update := List.foldl_concat _ _ _ _
      have hattempts :
          attemptsOf (requests ++ [r]) = attemptsOf requests ++ r.outcome.attempts := by
        simp [attemptsOf]
      rw [hstep, hattempts]
      exact ih.record r.outcome

namespace StatsLoop

theorem HasSeen.attempt {s : StatsLoop} (h : s.HasSeen seen) (requestId id : Uuid)
    (a : ProviderAttempt) :
    (s.addAttempt (providerAttemptRow requestId id (.from a))).HasSeen (seen ++ [a]) := by
  obtain ⟨hfigures, hlatencies⟩ := s.addAttempt_attempts requestId id a
  refine ⟨?_, ?_⟩
  · rw [hfigures, h.figures, attemptFiguresOf_concat]
  · rw [hlatencies, h.latencies, latenciesAt_concat]

/-- The rows of a call, whatever ids were drawn for them. -/
theorem HasSeen.attempts {s : StatsLoop} (h : s.HasSeen seen) (requestId : Uuid) (ids : Nat → Uuid)
    (attempts : List ProviderAttempt) :
    (((attempts.map RequestProviderAttempt.from).mapIdx fun i attempt =>
      providerAttemptRow requestId (ids i) attempt).foldl addAttempt s).HasSeen
        (seen ++ attempts) := by
  induction attempts generalizing s seen ids with
  | nil => rwa [List.append_nil]
  | cons a attempts ih =>
      rw [List.map_cons, List.mapIdx_cons, List.foldl_cons]
      have hrest := ih (h.attempt requestId (ids 0) a) fun i => ids (i + 1)
      rwa [List.append_assoc] at hrest

theorem HasSeen.calls {s : StatsLoop} (h : s.HasSeen seen) (requests : List HandledRequest) :
    (((requests.map HandledRequest.call).flatMap RecordCall.attemptRows).foldl addAttempt s).HasSeen
      (seen ++ attemptsOf requests) := by
  induction requests generalizing s seen with
  | nil => rwa [attemptsOf, List.flatMap_nil, List.append_nil]
  | cons r requests ih =>
      rw [List.map_cons, List.flatMap_cons, List.foldl_append]
      have hrest := ih (h.attempts r.requestId r.attemptIds r.outcome.attempts)
      rwa [List.append_assoc] at hrest

end StatsLoop

end RustyGate
