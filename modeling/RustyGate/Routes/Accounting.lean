/-
How requests are counted.

A request should add one to the total, one to the successes or the failures, and one to
the attempts for each provider call it made.  The chat route does so unless it answers
from the cache, and the Responses route only for streamed answers of requests that get
as far as routing.  On both, the attempts that the fallback loops forget
(`NoAttemptLost`) are missing.

What counts in a run is `entries`: for each request that was recorded, whether it
succeeded and with how many attempts.
-/
import RustyGate.Routes.Streams
import RustyGate.Routing.AttemptLogs

namespace RustyGate

open Effect Effect.Program Gateway

/-! ## Counting -/

/-- Handling the request counts as one request and as all its provider calls. -/
def CountedOnce (trace : List (Event Ans)) : Prop :=
  ∀ m : MetricsRegistry,
    let m' := (trace.flatMap metricsOf).foldl MetricsRegistry.record m
    m'.totalRequests = m.totalRequests + 1 ∧
      ((m'.successfulRequests = m.successfulRequests + 1 ∧
          m'.failedRequests = m.failedRequests) ∨
        (m'.successfulRequests = m.successfulRequests ∧
          m'.failedRequests = m.failedRequests + 1)) ∧
      m'.totalProviderAttempts = m.totalProviderAttempts + (trace.flatMap callsOf).length

/-- A recorded request: whether it succeeded, and its attempts. -/
def MetricsUpdate.entry : MetricsUpdate → List (Bool × Nat)
  | recordChatSuccess _ _ _ _ attempts => [(true, attempts.length)]
  | recordChatFailure _ attempts _ => [(false, attempts.length)]
  | _ => []

def entriesOf (e : Event Ans) : List (Bool × Nat) :=
  (metricsOf e).flatMap MetricsUpdate.entry

namespace MetricsRegistry

/-- The counters of requests and attempts. -/
def counters (m : MetricsRegistry) : Nat × Nat × Nat × Nat :=
  (m.totalRequests, m.successfulRequests, m.failedRequests, m.totalProviderAttempts)

theorem counters_recordProviderAttempt (m : MetricsRegistry) (a : ProviderAttempt) :
    (m.recordProviderAttempt a).counters =
      (m.totalRequests, m.successfulRequests, m.failedRequests, m.totalProviderAttempts + 1) := by
  obtain ⟨p, o, l, success, isFallback, category⟩ := a
  cases success <;> cases isFallback <;> cases category <;> rfl

theorem counters_recordProviderAttempts (attempts : List ProviderAttempt) (m : MetricsRegistry) :
    (m.recordProviderAttempts attempts).counters =
      (m.totalRequests, m.successfulRequests, m.failedRequests,
        m.totalProviderAttempts + attempts.length) := by
  induction attempts generalizing m with
  | nil => rfl
  | cons a rest ih =>
      have hfirst := counters_recordProviderAttempt m a
      simp only [counters, Prod.mk.injEq] at hfirst
      rw [recordProviderAttempts, List.foldl_cons]
      refine (ih _).trans ?_
      rw [hfirst.1, hfirst.2.1, hfirst.2.2.1, hfirst.2.2.2, List.length_cons, Nat.add_assoc,
        Nat.add_comm 1]

/-- One recording operation moves the counters by what it enters. -/
theorem counters_record (m : MetricsRegistry) (u : MetricsUpdate) :
    (m.record u).counters =
      (m.totalRequests + u.entry.length,
       m.successfulRequests + u.entry.countP (·.1),
       m.failedRequests + u.entry.countP (!·.1),
       m.totalProviderAttempts + (u.entry.map (·.2)).sum) := by
  cases u with
  | recordChatSuccess provider usage cost latencyMs attempts =>
      refine (counters_recordProviderAttempts attempts _).trans ?_
      rfl
  | recordChatFailure latencyMs attempts category =>
      refine (counters_recordProviderAttempts attempts _).trans ?_
      cases category <;> rfl
  | _ => rfl

theorem counters_foldl_record (updates : List MetricsUpdate) (m : MetricsRegistry) :
    let entries := updates.flatMap MetricsUpdate.entry
    (updates.foldl record m).counters =
      (m.totalRequests + entries.length,
       m.successfulRequests + entries.countP (·.1),
       m.failedRequests + entries.countP (!·.1),
       m.totalProviderAttempts + (entries.map (·.2)).sum) := by
  induction updates generalizing m with
  | nil => rfl
  | cons u rest ih =>
      have hfirst := counters_record m u
      simp only [counters, Prod.mk.injEq] at hfirst
      rw [List.foldl_cons]
      refine (ih _).trans ?_
      rw [hfirst.1, hfirst.2.1, hfirst.2.2.1, hfirst.2.2.2]
      simp only [List.flatMap_cons, List.length_append, List.countP_append, List.map_append,
        List.sum_append, Nat.add_assoc]

end MetricsRegistry

/-- A run counts once if it has one entry, with the number of calls. -/
theorem countedOnce_iff (trace : List (Event Ans)) :
    CountedOnce trace ↔
      ∃ success, trace.flatMap entriesOf = [(success, (trace.flatMap callsOf).length)] := by
  have hentries : trace.flatMap entriesOf =
      (trace.flatMap metricsOf).flatMap MetricsUpdate.entry := by
    rw [List.flatMap_assoc]
    rfl
  have hcounters := MetricsRegistry.counters_foldl_record (trace.flatMap metricsOf)
  rw [← hentries] at hcounters
  simp only [MetricsRegistry.counters, Prod.mk.injEq] at hcounters
  constructor
  · intro hcounted
    obtain ⟨hrequests, -, hattempts⟩ := hcounted {}
    obtain ⟨hlength, -, -, hsum⟩ := hcounters {}
    rw [hlength] at hrequests
    rw [hsum] at hattempts
    obtain ⟨⟨success, n⟩, hone⟩ := List.length_eq_one_iff.mp (Nat.add_left_cancel hrequests)
    refine ⟨success, ?_⟩
    rw [hone] at hattempts ⊢
    have hn : n = (trace.flatMap callsOf).length := by simpa using hattempts
    rw [hn]
  · rintro ⟨success, hone⟩ m
    obtain ⟨hlength, hsucceeded, hfailed, hsum⟩ := hcounters m
    simp only [hlength, hsucceeded, hfailed, hsum, hone]
    cases success <;> simp

/-! ## Reported attempts -/

/-- The attempts an error carries. -/
def FallbackError.attempts : FallbackError → List ProviderAttempt
  | .providerFailed _ attempts => attempts
  | _ => []

/-- The attempts a result is recorded with. -/
def reportedAttempts {β : Type} (attempts : β → List ProviderAttempt) :
    Except FallbackError β → List ProviderAttempt
  | .ok success => attempts success
  | .error failure => failure.attempts

theorem reportedAttempts_map {α β : Type} (attempts : β → List ProviderAttempt) (f : α → β)
    (result : Except FallbackError α) :
    reportedAttempts attempts (result.map f) =
      reportedAttempts (fun a => attempts (f a)) result := by
  cases result <;> rfl

/-- The number of attempts is the number of calls exactly when the calls are kept. -/
theorem Reported.length_eq_iff {α : Type} {calls : List Call}
    {result : Except FallbackError (Found α)} (h : Reported calls result) :
    (reportedAttempts (·.attempts) result).length = calls.length ↔ Kept calls result := by
  match result with
  | .ok found => exact ⟨fun _ => trivial, fun _ => (List.Forall₂.length_eq h).symm⟩
  | .error (.providerFailed error attempts) =>
      exact ⟨fun _ => h, fun _ => (List.Forall₂.length_eq h).symm⟩
  | .error .noProviderAvailable =>
      exact ⟨fun hz => List.length_eq_zero_iff.mp hz.symm, fun hnil => by rw [hnil]; rfl⟩
  | .error (.admissionRejected rejection) =>
      exact ⟨fun hz => List.length_eq_zero_iff.mp hz.symm, fun hnil => by rw [hnil]; rfl⟩

theorem reported_summary {α : Type} (a : (o : SearchOp) → SearchAns α o) (budget : String → Nat)
    (candidates : List ProviderEntry) :
    Reported (summary a (search budget candidates 0 {} none)).2
      (summary a (search budget candidates 0 {} none)).1 := by
  have hstart : List.Forall₂ Call.Matches [] ({} : AttemptLog).attempts := .nil
  exact search_reported (fun o s => (a o, s)) budget candidates 0 none () hstart

section Loops

variable (answer : Answers) (context : FallbackContext) (request : ChatCompletionRequest)

/-- `complete_chat` reports as many attempts as it made calls exactly when none is lost. -/
theorem chat_attempts_eq_calls_iff :
    (reportedAttempts (·.attempts) (answer.outcome (completeChat context request)).1).length =
        (answer.outcome (completeChat context request)).2.length ↔
      NoAttemptLost answer.admits (answer.chatVerdict context request)
        (answer.candidates request) := by
  rw [← chat_kept_iff, outcome_completeChat]
  simp only [reportedAttempts_map, Kept.map_iff]
  exact (reported_summary _ _ _).length_eq_iff

theorem stream_attempts_eq_calls_iff :
    (reportedAttempts (·.attempts)
        (answer.outcome (completeChatStream context request)).1).length =
        (answer.outcome (completeChatStream context request)).2.length ↔
      NoAttemptLost answer.admits (answer.streamVerdict context request)
        (answer.candidates request) := by
  rw [← stream_kept_iff, outcome_completeChatStream]
  simp only [reportedAttempts_map, Kept.map_iff]
  exact (reported_summary _ _ _).length_eq_iff

end Loops

/-! ## The ledger of a program -/

/-- Neither an entry nor a provider call. -/
def Op.isSilent : Op → Bool
  | .metrics (.recordChatSuccess _ _ _ _ _) | .metrics (.recordChatFailure _ _ _) => false
  | .chatCompletion _ _ _ | .chatCompletionStream _ _ _ => false
  | _ => true

/-- No entry, but maybe a provider call. -/
def Op.isUncounted : Op → Bool
  | .metrics (.recordChatSuccess _ _ _ _ _) | .metrics (.recordChatFailure _ _ _) => false
  | _ => true

theorem isUncounted_of_isSilent {o : Op} (h : o.isSilent = true) : o.isUncounted = true := by
  cases o with
  | metrics update => cases update <;> first | rfl | cases h
  | _ => rfl

theorem entriesOf_isUncounted {e : Event Ans} (h : e.op.isUncounted = true) :
    entriesOf e = [] := by
  obtain ⟨o, a⟩ := e
  cases o with
  | metrics update => cases update <;> first | rfl | cases h
  | _ => rfl

theorem entriesOf_isSilent {e : Event Ans} (h : e.op.isSilent = true) : entriesOf e = [] :=
  entriesOf_isUncounted (isUncounted_of_isSilent h)

theorem callsOf_isSilent {e : Event Ans} (h : e.op.isSilent = true) : callsOf e = [] := by
  obtain ⟨o, a⟩ := e
  cases o <;> first | rfl | cases h

theorem isSilent_of_isPlain {o : Op} (h : o.isPlain = true) : o.isSilent = true := by
  cases o <;> first | rfl | cases h

theorem isSilent_of_inLoop {o : Op} (h : o.inLoop = true) : o.isSilent = true := by
  cases o <;> first | rfl | cases h

/-- The entries of a stretch of events, and the number of its calls. -/
def ledger (t : List (Event Ans)) : List (Bool × Nat) × Nat :=
  (t.flatMap entriesOf, (t.flatMap callsOf).length)

/-- One entry, with all the calls. -/
def Balanced (l : List (Bool × Nat) × Nat) : Prop := ∃ success, l.1 = [(success, l.2)]

theorem balanced_one {success : Bool} {n calls : Nat} :
    Balanced ([(success, n)], calls) ↔ n = calls := by
  refine ⟨?_, fun h => ⟨success, by rw [h]⟩⟩
  rintro ⟨success', h⟩
  simp only [List.cons.injEq, Prod.mk.injEq, and_true] at h
  exact h.2

theorem not_balanced_nil {calls : Nat} : ¬ Balanced ([], calls) := by
  rintro ⟨success, h⟩
  cases h

@[simp] theorem ledger_nil : ledger [] = ([], 0) := rfl

@[simp] theorem ledger_append (t t' : List (Event Ans)) :
    ledger (t ++ t') = ((ledger t).1 ++ (ledger t').1, (ledger t).2 + (ledger t').2) := by
  simp [ledger]

theorem ledger_cons (e : Event Ans) (t : List (Event Ans)) :
    ledger (e :: t) = ((ledger [e]).1 ++ (ledger t).1, (ledger [e]).2 + (ledger t).2) :=
  ledger_append [e] t

theorem ledger_silent {t : List (Event Ans)} (ht : ∀ e ∈ t, e.op.isSilent = true) :
    ledger t = ([], 0) := by
  rw [ledger, List.flatMap_eq_nil_iff.mpr fun e he => entriesOf_isSilent (ht e he),
    List.flatMap_eq_nil_iff.mpr fun e he => callsOf_isSilent (ht e he)]
  rfl

/-- A silent event in front changes nothing. -/
theorem ledger_cons_silent {e : Event Ans} (he : e.op.isSilent = true) (t : List (Event Ans)) :
    ledger (e :: t) = ledger t := by
  rw [ledger, List.flatMap_cons, List.flatMap_cons, entriesOf_isSilent he, callsOf_isSilent he]
  rfl

namespace Answers

variable {α β : Type} (answer : Answers)

/-- The ledger of a run under given answers. -/
def ledger (p : Gateway α) : List (Bool × Nat) × Nat := RustyGate.ledger (p.runWith answer).trace

theorem countedOnce_iff_balanced (p : Gateway α) :
    CountedOnce (p.runWith answer).trace ↔ Balanced (answer.ledger p) := countedOnce_iff _

@[simp] theorem ledger_ret (a : α) : answer.ledger (.ret a) = ([], 0) := rfl

theorem ledger_bind (p : Gateway α) (f : α → Gateway β) :
    answer.ledger (p.bind f) =
      ((answer.ledger p).1 ++ (answer.ledger (f (p.runWith answer).value)).1,
        (answer.ledger p).2 + (answer.ledger (f (p.runWith answer).value)).2) := by
  rw [ledger, runWith_bind, ledger_append]
  rfl

theorem ledger_performs {p : Gateway α} (hp : p.Performs fun o => o.isSilent = true) :
    answer.ledger p = ([], 0) :=
  ledger_silent (hp.mem_trace _ ())

/-- A silent first part changes nothing but the value. -/
theorem ledger_bind_silent {p : Gateway α} (hp : p.Performs fun o => o.isSilent = true)
    (f : α → Gateway β) :
    answer.ledger (p.bind f) = answer.ledger (f (p.runWith answer).value) := by
  rw [ledger_bind, ledger_performs answer hp, List.nil_append, Nat.zero_add]

theorem ledger_op_silent {o : Op} (ho : o.isSilent = true) (next : Ans o → Gateway α) :
    answer.ledger (.op o next) = answer.ledger (next (answer o)) :=
  ledger_cons_silent (e := ⟨o, answer o⟩) ho _

/-! ## Bookkeeping -/

theorem ledger_recordFailedRequest (subject : Subject) (rejected : Option AdmissionRejectionReason)
    (category : Option RequestErrorCategory) (attempts : List ProviderAttempt) :
    answer.ledger (recordFailedRequest subject rejected category attempts) =
      ([(false, attempts.length)], 0) := by
  obtain ⟨latencyMs, logged, hlogged, htrace⟩ := recordFailedRequest_trace
    (fun o s => (answer o, s)) () subject rejected category attempts
  rw [ledger, runWith, htrace, ledger_cons_silent rfl, ledger_append, ledger_cons,
    ledger_silent fun e he => isSilent_of_isPlain (hlogged e he)]
  cases rejected <;> rfl

theorem ledger_recordSucceededRequest (subject : Subject) (key : AuthenticatedKey)
    (provider : String) (usage : TokenUsage) (cost : CostEstimate) (latencyMs : UInt64)
    (attempts : List ProviderAttempt) :
    answer.ledger (recordSucceededRequest subject key provider usage cost latencyMs attempts) =
      ([(true, attempts.length)], 0) := by
  obtain ⟨logged, hlogged, htrace⟩ := recordSucceededRequest_trace
    (fun o s => (answer o, s)) () subject key provider usage cost latencyMs attempts
  rw [ledger, runWith, htrace, ledger_cons, ledger_append,
    ledger_silent fun e he => isSilent_of_isPlain (hlogged e he)]
  rfl

theorem ledger_recordFallbackError (subject : Subject) (failure : FallbackError) :
    answer.ledger (recordFallbackError subject failure) =
      ([(false, failure.attempts.length)], 0) := by
  cases failure with
  | noProviderAvailable =>
      rw [recordFallbackError, bind_eq_bind, ledger_bind, ledger_recordFailedRequest]
      rfl
  | admissionRejected rejection =>
      rw [recordFallbackError, bind_eq_bind, ledger_bind, ledger_recordFailedRequest]
      rfl
  | providerFailed error attempts =>
      rw [recordFallbackError, bind_eq_bind, ledger_bind, ledger_recordFailedRequest]
      rfl

/-! ## Event streams -/

theorem ledger_failure {job : StreamJob} {finish : StreamEnd} (hfinish : job.Failed finish)
    {latencyMs durationMs : UInt64} {logged : List (Event Ans)} (hlogged : Plain logged) :
    RustyGate.ledger (StreamJob.failure finish latencyMs durationMs logged) =
      ([(false, job.success.attempts.length)], 0) := by
  rw [StreamJob.failure, ledger_cons_silent rfl, ledger_cons_silent rfl, ledger_cons_silent rfl,
    ledger_cons, ledger_silent fun e he => isSilent_of_isPlain (hlogged e he), ← hfinish.2]
  rfl

theorem ledger_completion {job : StreamJob} {usage : TokenUsage} {latencyMs durationMs : UInt64}
    {logged : List (Event Ans)} (hlogged : Plain logged) :
    RustyGate.ledger (job.completion usage latencyMs durationMs logged) =
      ([(true, job.success.attempts.length)], 0) := by
  rw [StreamJob.completion, ledger_cons_silent rfl, ledger_cons_silent rfl,
    ledger_cons_silent rfl, ledger_cons, ledger_append,
    ledger_silent fun e he => isSilent_of_isPlain (hlogged e he)]
  rfl

theorem ledger_inLoop {t : List (Event Ans)} (ht : InLoop t) : RustyGate.ledger t = ([], 0) :=
  ledger_silent fun e he => isSilent_of_inLoop (ht e he)

theorem ledger_chatEventStream (job : StreamJob) :
    ∃ success, answer.ledger job.chatEventStream =
      ([(success, job.success.attempts.length)], 0) := by
  obtain ⟨body, logged, latencyMs, durationMs, hbody, hlogged, hend⟩ :=
    job.chatEventStream_trace (fun o s => (answer o, s)) ()
  rcases hend with ⟨finish, hfinish, htrace⟩ | ⟨usage, htrace⟩
  · refine ⟨false, ?_⟩
    rw [ledger, runWith, htrace, ledger_append, ledger_append, ledger_inLoop hbody,
      ledger_failure hfinish hlogged]
    rfl
  · refine ⟨true, ?_⟩
    rw [ledger, runWith, htrace, ledger_append, ledger_append, ledger_inLoop hbody,
      ledger_cons_silent rfl, ledger_completion hlogged]
    rfl

theorem ledger_responseEventStream (job : StreamJob) :
    ∃ success, answer.ledger job.responseEventStream =
      ([(success, job.success.attempts.length)], 0) := by
  obtain ⟨body, logged, latencyMs, durationMs, hbody, hlogged, hend⟩ :=
    job.responseEventStream_trace (fun o s => (answer o, s)) ()
  rcases hend with ⟨finish, hfinish, htrace⟩ | ⟨usage, response, htrace⟩
  · refine ⟨false, ?_⟩
    rw [ledger, runWith, htrace, ledger_append, ledger_append, ledger_inLoop hbody,
      ledger_failure hfinish hlogged]
    rfl
  · refine ⟨true, ?_⟩
    rw [ledger, runWith, htrace, ledger_append, ledger_append, ledger_append,
      ledger_inLoop hbody, ledger_completion hlogged]
    rfl

/-! ## The fallback loops -/

/-- The fallback loops make no entry themselves. -/
abbrev Uncounted (p : Gateway α) : Prop := p.Performs fun o => o.isUncounted = true

theorem uncounted_implement (c : FallbackCall)
    {call : Site → ProviderEntry → Gateway (Outcome α × UInt64)} {wonEnd : String → Gateway Unit}
    {handOver : GuardId → Gateway Unit} (hcall : ∀ site entry, Uncounted (call site entry))
    (hwon : ∀ provider, Uncounted (wonEnd provider)) (hover : ∀ guard, Uncounted (handOver guard))
    (o : SearchOp) :
    Uncounted (implement c call wonEnd handOver o) := by
  cases o with
  | allow index provider =>
      refine ⟨rfl, fun allowed => ?_⟩
      cases allowed
      · exact ⟨rfl, fun _ => trivial⟩
      · trivial
  | reserve index provider =>
      refine ⟨rfl, fun reserved => ?_⟩
      cases reserved with
      | error rejected => trivial
      | ok guard =>
          exact (recordFallback_performs (fun _ _ => rfl) c.policy index).bind fun _ => trivial
  | call site entry => exact hcall site entry
  | won index provider =>
      refine ⟨rfl, fun _ => ⟨rfl, fun _ => ?_⟩⟩
      exact (recordPrefixAffinitySelection_performs (fun _ _ => rfl) ..).bind fun _ => hwon provider
  | backoff site provider => exact ⟨rfl, fun _ => ⟨rfl, fun _ => trivial⟩⟩
  | lost index provider => exact ⟨rfl, fun _ => ⟨rfl, fun _ => trivial⟩⟩
  | quit provider => exact ⟨rfl, fun _ => trivial⟩
  | handOver guard => exact hover guard
  | release guard => exact ⟨rfl, fun _ => trivial⟩

theorem uncounted_chatImpl (c : FallbackCall) (o : SearchOp) : Uncounted (chatImpl c o) := by
  apply uncounted_implement
  · intro site entry
    refine ⟨rfl, fun _ => ⟨rfl, fun result => ⟨rfl, fun latencyMs => ?_⟩⟩⟩
    cases result <;> trivial
  · exact fun provider => ⟨rfl, fun _ => trivial⟩
  · exact fun guard => ⟨rfl, fun _ => trivial⟩

theorem uncounted_streamImpl (c : FallbackCall) (o : SearchOp) : Uncounted (streamImpl c o) := by
  apply uncounted_implement
  · intro site entry
    refine ⟨rfl, fun _ => ⟨rfl, fun result => ?_⟩⟩
    cases result with
    | error error => exact ⟨rfl, fun _ => trivial⟩
    | ok opened =>
        obtain ⟨context, stream⟩ := opened
        refine ⟨rfl, fun _ => ⟨rfl, fun latencyMs => ?_⟩⟩
        simp only
        rcases stream.next with ⟨_ | _ | _, rest⟩
        · trivial
        · trivial
        · exact ⟨rfl, fun _ => trivial⟩
  · exact fun provider => trivial
  · exact fun guard => trivial

theorem uncounted_completeChat (context : FallbackContext) (request : ChatCompletionRequest) :
    Uncounted (completeChat context request) := by
  rw [completeChat_eq]
  refine ⟨rfl, fun _ => ⟨rfl, fun selection => ⟨rfl, fun _ => ?_⟩⟩⟩
  exact (Performs.interp (uncounted_chatImpl _) _).bind fun _ => trivial

theorem uncounted_completeChatStream (context : FallbackContext)
    (request : ChatCompletionRequest) : Uncounted (completeChatStream context request) := by
  rw [completeChatStream_eq]
  refine ⟨rfl, fun _ => ⟨rfl, fun selection => ⟨rfl, fun _ => ?_⟩⟩⟩
  exact (Performs.interp (uncounted_streamImpl _) _).bind fun _ => trivial

/-- An uncounted program leaves its calls only. -/
theorem ledger_uncounted {p : Gateway α} (hp : Uncounted p) :
    answer.ledger p = ([], (answer.outcome p).2.length) := by
  rw [ledger, RustyGate.ledger, runWith, hp.flatMap_eq_nil _ () fun _ => entriesOf_isUncounted]
  rfl

/-! ## The cache -/

/-- What the cache has for a request that may be answered from it. -/
def cached (state : AppState) (key : AuthenticatedKey) (request : ChatCompletionRequest) :
    Option ChatCompletionResponse :=
  if state.responseCache ∧ key.cacheEnabled then
    (cacheKeyForRequest state.cacheDigest request).bind fun cacheKey => answer (.cacheGet cacheKey)
  else none

abbrev Silent (p : Gateway α) : Prop := p.Performs fun o => o.isSilent = true

theorem silent_lookupCache (state : AppState) (key : AuthenticatedKey)
    (request : ChatCompletionRequest) : Silent (lookupCache state key request) :=
  lookupCache_performs (fun _ => rfl) (fun _ => rfl) state key request

theorem value_lookupCache (state : AppState) (key : AuthenticatedKey)
    (request : ChatCompletionRequest) :
    ((lookupCache state key request).runWith answer).value = answer.cached state key request := by
  unfold lookupCache cached
  cases state.responseCache with
  | false => rfl
  | true =>
      cases key.cacheEnabled with
      | false => rfl
      | true =>
          simp only [Bool.not_true, Bool.false_eq_true, and_false, if_false, if_true, and_self]
          cases cacheKeyForRequest state.cacheDigest request with
          | none => rfl
          | some cacheKey =>
              simp only [bind_eq_bind, perform_bind, runWith_op, Option.bind_some]
              cases answer (.cacheGet cacheKey) <;> rfl

theorem silent_storeInCache (state : AppState) (key : AuthenticatedKey)
    (request : ChatCompletionRequest) (response : ChatCompletionResponse) :
    Silent (storeInCache state key request response) :=
  storeInCache_performs (fun _ _ => rfl) state key request response

end Answers
end RustyGate
