/-
The statistics in memory and those of the request log.

Both snapshots are closed from the same figures of requests and attempts.  They differ in
the tokens that a failed request leaves behind, and in the percentile among a multiple of
twenty samples, and `statistics_agree_iff` says that they differ in nothing else.
-/
import Mathlib.Algebra.Order.BigOperators.Group.List
import RustyGate.Storage.Figures
import RustyGate.Storage.Percentiles

namespace RustyGate

/-! ## The snapshots -/

/-- The aggregates of requests that both snapshots have. -/
@[ext]
structure RequestAggregates where
  totalRequests : Nat
  successfulRequests : Nat
  failedRequests : Nat
  requestErrorsByCategory : Tally String
  errorRate : ℚ
  avgLatencyMs : ℚ
  p95LatencyMs : ℚ
  estimatedPromptTokens : Nat
  estimatedCompletionTokens : Nat
  estimatedTotalTokens : Nat
  estimatedInputCostUsd : ℚ
  estimatedOutputCostUsd : ℚ
  estimatedTotalCostUsd : ℚ

/-- The aggregates of attempts that both snapshots have. -/
@[ext]
structure ProviderAggregates where
  totalProviderAttempts : Nat
  fallbackAttempts : Nat
  requestsByProvider : Tally String
  successesByProvider : Tally String
  errorsByProvider : Tally String
  fallbackAttemptsByProvider : Tally String
  providerErrorsByProviderAndCategory : Tally (String × String)
  avgLatencyMsByProvider : String → Option ℚ
  p95LatencyMsByProvider : String → Option ℚ

namespace MetricsSnapshot

def requestAggregates (s : MetricsSnapshot) : RequestAggregates where
  totalRequests := s.totalRequests
  successfulRequests := s.successfulRequests
  failedRequests := s.failedRequests
  requestErrorsByCategory := s.requestErrorsByCategory
  errorRate := s.errorRate
  avgLatencyMs := s.avgLatencyMs
  p95LatencyMs := s.p95LatencyMs
  estimatedPromptTokens := s.estimatedPromptTokens
  estimatedCompletionTokens := s.estimatedCompletionTokens
  estimatedTotalTokens := s.estimatedTotalTokens
  estimatedInputCostUsd := s.estimatedInputCostUsd
  estimatedOutputCostUsd := s.estimatedOutputCostUsd
  estimatedTotalCostUsd := s.estimatedTotalCostUsd

def providerAggregates (s : MetricsSnapshot) : ProviderAggregates where
  totalProviderAttempts := s.totalProviderAttempts
  fallbackAttempts := s.fallbackAttempts
  requestsByProvider := s.requestsByProvider
  successesByProvider := s.successesByProvider
  errorsByProvider := s.errorsByProvider
  fallbackAttemptsByProvider := s.fallbackAttemptsByProvider
  providerErrorsByProviderAndCategory := s.providerErrorsByProviderAndCategory
  avgLatencyMsByProvider := s.avgLatencyMsByProvider
  p95LatencyMsByProvider := s.p95LatencyMsByProvider

/-- The snapshots agree on every aggregate that both compute. -/
def Agrees (a b : MetricsSnapshot) : Prop :=
  a.requestAggregates = b.requestAggregates ∧ a.providerAggregates = b.providerAggregates

end MetricsSnapshot

/-- The aggregates that follow from the figures, with the tokens and the percentile. -/
def RequestFigures.close (f : RequestFigures) (t : TokenFigures) (p95LatencyMs : ℚ) :
    RequestAggregates where
  totalRequests := f.totalRequests
  successfulRequests := f.successfulRequests
  failedRequests := f.failedRequests
  requestErrorsByCategory := f.requestErrorsByCategory
  errorRate := if f.totalRequests = 0 then 0 else (f.failedRequests : ℚ) / f.totalRequests
  avgLatencyMs := if f.totalRequests = 0 then 0 else f.totalLatencyMs / f.totalRequests
  p95LatencyMs := p95LatencyMs
  estimatedPromptTokens := t.promptTokens
  estimatedCompletionTokens := t.completionTokens
  estimatedTotalTokens := t.totalTokens
  estimatedInputCostUsd := f.inputCostUsd
  estimatedOutputCostUsd := f.outputCostUsd
  estimatedTotalCostUsd := f.totalCostUsd

def AttemptFigures.close (f : AttemptFigures) (p95LatencyMsByProvider : String → Option ℚ) :
    ProviderAggregates where
  totalProviderAttempts := f.totalProviderAttempts
  fallbackAttempts := f.fallbackAttempts
  requestsByProvider := f.requestsByProvider
  successesByProvider := f.successesByProvider
  errorsByProvider := f.errorsByProvider
  fallbackAttemptsByProvider := f.fallbackAttemptsByProvider
  providerErrorsByProviderAndCategory := f.providerErrorsByProviderAndCategory
  avgLatencyMsByProvider := fun provider =>
    (f.requestsByProvider.lookup provider).map fun (requests : Nat) =>
      (f.providerTotalLatencyMs.count provider : ℚ) / requests
  p95LatencyMsByProvider := p95LatencyMsByProvider

theorem RequestFigures.close_eq_iff (f : RequestFigures) {t t' : TokenFigures} {p p' : ℚ} :
    f.close t p = f.close t' p' ↔ t = t' ∧ p = p' := by
  constructor
  · intro h
    obtain ⟨_, _, _, _, _, _, hp, hprompt, hcompletion, htotal, _⟩ := RequestAggregates.ext_iff.mp h
    exact ⟨TokenFigures.ext hprompt hcompletion htotal, hp⟩
  · rintro ⟨rfl, rfl⟩
    rfl

theorem AttemptFigures.close_eq_iff (f : AttemptFigures) {p p' : String → Option ℚ} :
    f.close p = f.close p' ↔ p = p' := by
  constructor
  · intro h
    exact congrArg ProviderAggregates.p95LatencyMsByProvider h
  · rintro rfl
    rfl

theorem MetricsRegistry.requestAggregates_snapshot (m : MetricsRegistry) :
    m.snapshot.requestAggregates =
      m.requestFigures.close m.tokenFigures (percentileLatency m.latencySamplesMs (95 / 100)) := rfl

theorem MetricsRegistry.providerAggregates_snapshot (m : MetricsRegistry) :
    m.snapshot.providerAggregates =
      m.attemptFigures.close (percentilesOf m.providerLatencySamplesMs (95 / 100)) := by
  refine ProviderAggregates.ext rfl rfl rfl rfl rfl rfl rfl (funext fun provider => ?_) rfl
  show m.avgLatencyMsByProvider provider =
    (m.requestsByProvider.lookup provider).map fun (requests : Nat) =>
      (m.providerTotalLatencyMs.count provider : ℚ) / requests
  unfold avgLatencyMsByProvider
  congr 1
  funext requests
  by_cases hzero : requests = 0
  · rw [if_pos hzero, hzero, Nat.cast_zero, div_zero]
  · rw [if_neg hzero]

namespace StatsLoop

/-- The second loop touches no aggregate of requests. -/
theorem requestAggregates_foldl_addAttempt (rows : List ProviderAttemptRow) (s : StatsLoop) :
    (rows.foldl addAttempt s).snapshot.requestAggregates = s.snapshot.requestAggregates := by
  induction rows generalizing s with
  | nil => rfl
  | cons row rows ih => exact ih (s.addAttempt row)

theorem requestAggregates_closeRequests {s : StatsLoop}
    (h : s.snapshot.totalRequests = 0 → s.snapshot.avgLatencyMs = 0 ∧ s.snapshot.errorRate = 0) :
    s.closeRequests.snapshot.requestAggregates =
      s.requestFigures.close s.tokenFigures
        (storedPercentileLatency s.requestLatencies (95 / 100)) := by
  by_cases hzero : s.snapshot.totalRequests = 0
  · obtain ⟨havg, hrate⟩ := h hzero
    refine RequestAggregates.ext rfl rfl rfl rfl ?_ ?_ rfl rfl rfl rfl rfl rfl rfl
    · show (if 0 < s.snapshot.totalRequests then _ else s.snapshot.errorRate) =
        if s.snapshot.totalRequests = 0 then 0 else _
      rw [if_neg (by omega), if_pos hzero, hrate]
    · show (if 0 < s.snapshot.totalRequests then _ else s.snapshot.avgLatencyMs) =
        if s.snapshot.totalRequests = 0 then 0 else _
      rw [if_neg (by omega), if_pos hzero, havg]
  · have hpos : 0 < s.snapshot.totalRequests := Nat.pos_of_ne_zero hzero
    refine RequestAggregates.ext rfl rfl rfl rfl ?_ ?_ rfl rfl rfl rfl rfl rfl rfl
    · show (if 0 < s.snapshot.totalRequests then _ else _) =
        if s.snapshot.totalRequests = 0 then _ else _
      rw [if_pos hpos, if_neg hzero]
      rfl
    · show (if 0 < s.snapshot.totalRequests then _ else _) =
        if s.snapshot.totalRequests = 0 then _ else _
      rw [if_pos hpos, if_neg hzero]
      rfl

end StatsLoop

/-! ## Agreement -/

/-- A failed request leaves no tokens behind. -/
def ChatOutcome.CountsAllTokens (outcome : ChatOutcome) : Prop :=
  outcome.status = .failure → ∀ usage ∈ outcome.usage,
    usage.promptTokens = 0 ∧ usage.completionTokens = 0 ∧ usage.totalTokens = 0

/-- The tokens of one kind in a usage. -/
def tokensIn (kind : TokenUsage → UInt32) (usage : Option TokenUsage) : Nat :=
  usage.elim 0 fun usage => (kind usage).toNat

theorem tokenFiguresOf_eq (usages : List (Option TokenUsage)) :
    tokenFiguresOf usages =
      ⟨(usages.map (tokensIn (·.promptTokens))).sum,
        (usages.map (tokensIn (·.completionTokens))).sum,
        (usages.map (tokensIn (·.totalTokens))).sum⟩ := by
  induction usages using List.reverseRecOn with
  | nil => rfl
  | append_singleton usages usage ih =>
      rw [tokenFiguresOf_concat, ih]
      simp only [List.map_append, List.map_singleton, List.sum_append, List.sum_singleton]
      rfl

/-- Sums of smaller terms are equal only term by term. -/
theorem sum_map_eq_iff {α : Type} {f g : α → Nat} (hle : ∀ x, f x ≤ g x) (l : List α) :
    (l.map f).sum = (l.map g).sum ↔ ∀ x ∈ l, f x = g x := by
  induction l with
  | nil => simp
  | cons x l ih =>
      have hsum : (l.map f).sum ≤ (l.map g).sum := List.sum_le_sum fun x _ => hle x
      have hx := hle x
      rw [List.map_cons, List.map_cons, List.sum_cons, List.sum_cons, List.forall_mem_cons, ← ih]
      omega

theorem tokensIn_countedUsage_le (kind : TokenUsage → UInt32) (outcome : ChatOutcome) :
    tokensIn kind outcome.countedUsage ≤ tokensIn kind outcome.usage := by
  cases outcome with
  | success providerName usage cost latencyMs attempts => exact Nat.le_refl _
  | failure finalProvider usage latencyMs attempts errorCategory => exact Nat.zero_le _

theorem countsAllTokens_iff (outcome : ChatOutcome) :
    outcome.CountsAllTokens ↔
      tokensIn (·.promptTokens) outcome.countedUsage = tokensIn (·.promptTokens) outcome.usage ∧
        tokensIn (·.completionTokens) outcome.countedUsage =
          tokensIn (·.completionTokens) outcome.usage ∧
        tokensIn (·.totalTokens) outcome.countedUsage = tokensIn (·.totalTokens) outcome.usage := by
  cases outcome with
  | success providerName usage cost latencyMs attempts =>
      exact ⟨fun _ => ⟨rfl, rfl, rfl⟩, fun _ h => nomatch h⟩
  | failure finalProvider usage latencyMs attempts errorCategory =>
      cases usage with
      | none => exact ⟨fun _ => ⟨rfl, rfl, rfl⟩, fun _ _ usage h => nomatch h⟩
      | some usage =>
          have hzero : ∀ n : UInt32, n = 0 ↔ 0 = n.toNat := fun n =>
            ⟨fun h => h ▸ rfl, fun h => UInt32.toNat_inj.mp h.symm⟩
          have hkinds : usage.promptTokens = 0 ∧ usage.completionTokens = 0 ∧
              usage.totalTokens = 0 ↔
            0 = usage.promptTokens.toNat ∧ 0 = usage.completionTokens.toNat ∧
              0 = usage.totalTokens.toNat :=
            and_congr (hzero _) (and_congr (hzero _) (hzero _))
          refine Iff.trans ⟨fun h => h rfl usage rfl, fun h _ usage' he => ?_⟩ hkinds
          obtain rfl := Option.some.inj he
          exact h

theorem tokenFigures_eq_iff (requests : List HandledRequest) :
    tokenFiguresOf (requests.map fun r => r.outcome.countedUsage) =
        tokenFiguresOf (requests.map fun r => r.outcome.usage) ↔
      ∀ r ∈ requests, r.outcome.CountsAllTokens := by
  rw [tokenFiguresOf_eq, tokenFiguresOf_eq, TokenFigures.mk.injEq]
  simp only [List.map_map, Function.comp_def]
  rw [sum_map_eq_iff fun r : HandledRequest => tokensIn_countedUsage_le _ r.outcome,
    sum_map_eq_iff fun r : HandledRequest => tokensIn_countedUsage_le _ r.outcome,
    sum_map_eq_iff fun r : HandledRequest => tokensIn_countedUsage_le _ r.outcome]
  constructor
  · intro ⟨hprompt, hcompletion, htotal⟩ r hr
    exact (countsAllTokens_iff r.outcome).mpr ⟨hprompt r hr, hcompletion r hr, htotal r hr⟩
  · intro h
    exact ⟨fun r hr => ((countsAllTokens_iff r.outcome).mp (h r hr)).1,
      fun r hr => ((countsAllTokens_iff r.outcome).mp (h r hr)).2.1,
      fun r hr => ((countsAllTokens_iff r.outcome).mp (h r hr)).2.2⟩

section Requests

variable {requests : List HandledRequest}

theorem requestAggregates_countersAfter (hlength : requests.length ≤ maxLatencySamples) :
    (countersAfter requests).snapshot.requestAggregates =
      (requestFiguresOf requests).close
        (tokenFiguresOf (requests.map fun r => r.outcome.countedUsage))
        (percentileLatency (requests.map fun r => r.outcome.latencyMs) (95 / 100)) := by
  obtain ⟨hfigures, htokens, hsamples⟩ := countersAfter_requests requests
  rw [MetricsRegistry.requestAggregates_snapshot, hfigures, htokens, hsamples,
    window_eq_self (by rwa [List.length_map])]

theorem providerAggregates_countersAfter
    (hattempts : ∀ provider,
      (latenciesAt (attemptsOf requests) provider).length ≤ maxLatencySamples) :
    (countersAfter requests).snapshot.providerAggregates =
      (attemptFiguresOf (attemptsOf requests)).close
        (percentilesOf (latenciesAt (attemptsOf requests)) (95 / 100)) := by
  have hseen := countersAfter_hasSeen requests
  have hsamples : (countersAfter requests).providerLatencySamplesMs =
      latenciesAt (attemptsOf requests) :=
    hseen.samples.trans (funext fun provider => window_eq_self (hattempts provider))
  rw [MetricsRegistry.providerAggregates_snapshot, hseen.figures, hsamples]

theorem requestLogs_of_call :
    (SqliteRequestLogStore.of (requests.map HandledRequest.call)).requestLogs =
      requests.map fun r => r.call.requestRow :=
  List.map_map

theorem requestAggregates_of_call :
    (SqliteRequestLogStore.of (requests.map HandledRequest.call)).statsSnapshot.requestAggregates =
      (requestFiguresOf requests).close (tokenFiguresOf (requests.map fun r => r.outcome.usage))
        (storedPercentileLatency (requests.map fun r => r.outcome.latencyMs) (95 / 100)) := by
  obtain ⟨hfigures, htokens, hlatencies⟩ := foldl_addRequest requests
  rw [← hfigures, ← htokens, ← hlatencies]
  refine (StatsLoop.requestAggregates_foldl_addAttempt _ _).trans ?_
  rw [requestLogs_of_call]
  refine StatsLoop.requestAggregates_closeRequests fun hzero => ?_
  rw [SqliteRequestLogStore.totalRequests_foldl_addRequest, List.length_map] at hzero
  have hnil : requests = [] := List.length_eq_zero_iff.mp (Nat.add_eq_zero_iff.mp hzero).2
  subst hnil
  exact ⟨rfl, rfl⟩

theorem providerAggregates_of_call :
    (SqliteRequestLogStore.of (requests.map HandledRequest.call)).statsSnapshot.providerAggregates =
      (attemptFiguresOf (attemptsOf requests)).close fun provider =>
        if (latenciesAt (attemptsOf requests) provider).isEmpty then none
        else some
          (storedPercentileLatency (latenciesAt (attemptsOf requests) provider) (95 / 100)) := by
  have hfirst : ∀ (rows : List RequestLogRow) (s : StatsLoop), s.HasSeen [] →
      (rows.foldl StatsLoop.addRequest s).HasSeen [] := by
    intro rows
    induction rows with
    | nil => exact fun s h => h
    | cons row rows ih => exact fun s h => ih (s.addRequest row) ⟨h.figures, h.latencies⟩
  have hclosed : ((SqliteRequestLogStore.of (requests.map HandledRequest.call)).requestLogs.foldl
      StatsLoop.addRequest {}).closeRequests.HasSeen [] :=
    have h := hfirst _ {} ⟨rfl, rfl⟩
    ⟨h.figures, h.latencies⟩
  have hseen := hclosed.calls requests
  rw [List.nil_append] at hseen
  rw [← hseen.figures, ← hseen.latencies]
  rfl

variable (hids : (requests.map (·.requestId)).Nodup)
  (hfresh : SqliteRequestLogStore.Fresh (requests.map HandledRequest.call))

include hids hfresh

/-- With request ids that are all different the log has the rows of every request. -/
theorem logAfter_eq :
    logAfter requests = .of (requests.map HandledRequest.call) := by
  refine SqliteRequestLogStore.run_eq_of_nodup hfresh ?_
  rw [List.map_map]
  exact hids

theorem requestAggregates_eq_iff (hlength : requests.length ≤ maxLatencySamples) :
    (countersAfter requests).snapshot.requestAggregates =
        (logAfter requests).statsSnapshot.requestAggregates ↔
      (∀ r ∈ requests, r.outcome.CountsAllTokens) ∧
        Unambiguous (requests.map fun r => r.outcome.latencyMs) := by
  rw [logAfter_eq hids hfresh, requestAggregates_countersAfter hlength, requestAggregates_of_call,
    RequestFigures.close_eq_iff, tokenFigures_eq_iff, percentileLatency_eq_iff]

theorem providerAggregates_eq_iff (hattempts : ∀ provider,
      (latenciesAt (attemptsOf requests) provider).length ≤ maxLatencySamples) :
    (countersAfter requests).snapshot.providerAggregates =
        (logAfter requests).statsSnapshot.providerAggregates ↔
      ∀ provider, Unambiguous (latenciesAt (attemptsOf requests) provider) := by
  rw [logAfter_eq hids hfresh, providerAggregates_countersAfter hattempts,
    providerAggregates_of_call, AttemptFigures.close_eq_iff, funext_iff]
  refine forall_congr' fun provider => ?_
  rw [← percentileLatency_eq_iff]
  unfold percentilesOf
  by_cases hempty : (latenciesAt (attemptsOf requests) provider).isEmpty = true
  · rw [if_pos hempty, if_pos hempty, List.isEmpty_iff.mp hempty]
    exact ⟨fun _ => rfl, fun _ => rfl⟩
  · rw [if_neg hempty, if_neg hempty, Option.some_inj]

end Requests

/-- The statistics in memory and those of the log agree exactly when no failed request
leaves tokens behind and no percentile falls between two different samples. -/
theorem statistics_agree_iff {requests : List HandledRequest}
    (hids : (requests.map (·.requestId)).Nodup)
    (hfresh : SqliteRequestLogStore.Fresh (requests.map HandledRequest.call))
    (hlength : requests.length ≤ maxLatencySamples)
    (hattempts : ∀ provider,
      (latenciesAt (attemptsOf requests) provider).length ≤ maxLatencySamples) :
    (countersAfter requests).snapshot.Agrees (logAfter requests).statsSnapshot ↔
      (∀ r ∈ requests, r.outcome.CountsAllTokens) ∧
        Unambiguous (requests.map fun r => r.outcome.latencyMs) ∧
        ∀ provider, Unambiguous (latenciesAt (attemptsOf requests) provider) := by
  unfold MetricsSnapshot.Agrees
  rw [requestAggregates_eq_iff hids hfresh hlength, providerAggregates_eq_iff hids hfresh hattempts,
    and_assoc]

theorem length_latenciesAt_le (attempts : List ProviderAttempt) (provider : String) :
    (latenciesAt attempts provider).length ≤ attempts.length := by
  unfold latenciesAt
  rw [List.length_map]
  exact List.length_filter_le _ _

/-- A request that was served by the second provider, and one that was not valid. -/
def twoRequests : List HandledRequest :=
  [⟨1, 0, "/v1/chat/completions", none, {}, fun i => BitVec.ofNat 128 (10 + i),
      .success "b" ⟨3, 4, 7⟩ ⟨1, 2, 3⟩ 12
        [⟨"a", 1, 5, false, false, some .timeout⟩, ⟨"b", 2, 6, true, true, none⟩]⟩,
    ⟨2, 1, "/v1/chat/completions", none, {}, fun i => BitVec.ofNat 128 (20 + i),
      .failure none none 1 [] (some .invalidRequest)⟩]

theorem statistics_agree_twoRequests :
    (countersAfter twoRequests).snapshot.Agrees (logAfter twoRequests).statsSnapshot := by
  have hshort : ∀ provider, (latenciesAt (attemptsOf twoRequests) provider).length < 20 :=
    fun provider => Nat.lt_of_le_of_lt (length_latenciesAt_le _ provider) (by decide)
  refine (statistics_agree_iff (by decide +kernel) (by decide +kernel) (by decide)
    fun provider => Nat.le_trans (Nat.le_of_lt (hshort provider)) (by decide)).mpr ⟨?_, ?_, ?_⟩
  · intro r hr hfailed usage husage
    rcases List.mem_pair.mp hr with rfl | rfl
    · cases hfailed
    · cases husage
  · exact unambiguous_of_length_lt (by decide)
  · exact fun provider => unambiguous_of_length_lt (hshort provider)

/-- Twenty requests that take one to twenty milliseconds. -/
def twentyRequests : List HandledRequest :=
  (List.range 20).map fun i =>
    ⟨BitVec.ofNat 128 i, 0, "/v1/chat/completions", none, {}, fun _ => 0,
      .failure none none (UInt64.ofNat (i + 1)) [] (some .invalidRequest)⟩

/-- The percentile is 19 in memory and 20 in the log. -/
theorem twenty_requests_disagree :
    (twentyRequests.map (·.requestId)).Nodup ∧
      SqliteRequestLogStore.Fresh (twentyRequests.map HandledRequest.call) ∧
      twentyRequests.length ≤ maxLatencySamples ∧
      (∀ provider, (latenciesAt (attemptsOf twentyRequests) provider).length ≤ maxLatencySamples) ∧
      ¬ (countersAfter twentyRequests).snapshot.Agrees (logAfter twentyRequests).statsSnapshot := by
  have hids : (twentyRequests.map (·.requestId)).Nodup := by decide +kernel
  have hfresh : SqliteRequestLogStore.Fresh (twentyRequests.map HandledRequest.call) := by
    decide +kernel
  refine ⟨hids, hfresh, by decide, fun provider => ?_, fun h => ?_⟩
  · exact Nat.le_trans (length_latenciesAt_le _ provider) (by decide)
  · have hsame := ((requestAggregates_eq_iff hids hfresh (by decide)).mp h.1).2 1 Nat.one_pos rfl
    have hsorted : sortedSamples (twentyRequests.map fun r => r.outcome.latencyMs) =
        twentyRequests.map fun r => r.outcome.latencyMs :=
      List.mergeSort_of_pairwise (by decide +kernel)
    rw [hsorted] at hsame
    revert hsame
    decide +kernel

end RustyGate
