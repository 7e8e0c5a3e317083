/-
Which requests are counted once.

A request is balanced if its run has one entry and the entry has all its provider calls.
Every exit of the two routes is either balanced, or makes no entry at all, or is the
entry of a fallback loop that may have lost attempts.
-/
import RustyGate.Routes.Accounting

namespace RustyGate

open Effect Effect.Program Gateway

/-! ## Reading the answer to its end -/

theorem serve_bind {α : Type} (p : Gateway α) (f : α → Gateway (Except AppError Response)) :
    serve (p.bind f) = p.bind fun a => serve (f a) :=
  bind_assoc ..

theorem serve_op (o : Op) (next : Ans o → Gateway (Except AppError Response)) :
    serve (.op o next) = .op o fun a => serve (next a) := rfl

namespace Answers

variable (answer : Answers) (state : AppState) (key : AuthenticatedKey)
  (request : ChatCompletionRequest) (requestId : Uuid) (guard : GuardId)

/-- The ledger of a loop that reports `result` in one entry. -/
def loopLedger {β : Type} (attempts : β → List ProviderAttempt) (success : Bool)
    (outcome : Except FallbackError β × List Call) : List (Bool × Nat) × Nat :=
  ([(success, (reportedAttempts attempts outcome.1).length)], outcome.2.length)

/-- Both routes stream alike: `eventStream` is the event stream of the route. -/
theorem ledger_serve_stream (subject : Subject) {eventStream : StreamJob → Gateway Unit}
    (hstream : ∀ job : StreamJob, ∃ success,
      answer.ledger (eventStream job) = ([(success, job.success.attempts.length)], 0)) :
    ∃ success, answer.ledger (serve ((completeChatStream state.fallback request).bind fun
        | .ok success => .ret (.ok (.sse (eventStream ⟨subject, key, success, guard⟩)))
        | .error failure => (recordFallbackError subject failure).bind fun error =>
            (ask (.dropAdmissionGuard guard)).bind fun _ =>
              (metrics .endRequest).bind fun _ => .ret (.error error))) =
      loopLedger (·.attempts) success
        (answer.outcome (completeChatStream state.fallback request)) := by
  rw [serve_bind, ledger_bind, answer.ledger_uncounted (uncounted_completeChatStream ..)]
  simp only [loopLedger, outcome]
  cases ((completeChatStream state.fallback request).runWith answer).value with
  | ok success =>
      obtain ⟨ok, hledger⟩ := hstream ⟨subject, key, success, guard⟩
      refine ⟨ok, ?_⟩
      show ([] ++ (answer.ledger (eventStream _)).1, _ + (answer.ledger (eventStream _)).2) = _
      rw [hledger]
      rfl
  | error failure =>
      refine ⟨false, ?_⟩
      simp only [serve_bind]
      rw [ledger_bind, ledger_recordFallbackError]
      rfl

/-! ## The chat route -/

theorem ledger_answerChat_hit {response : ChatCompletionResponse}
    (hhit : answer.cached state key request = some response) :
    answer.ledger (answerChat state key request requestId) = ([], 0) := by
  rw [answerChat, bind_eq_bind, answer.ledger_bind_silent (silent_lookupCache ..),
    answer.value_lookupCache, hhit]
  rfl

theorem ledger_answerChat_miss (hmiss : answer.cached state key request = none) :
    ∃ success, answer.ledger (answerChat state key request requestId) =
      loopLedger (·.attempts) success (answer.outcome (completeChat state.fallback request)) := by
  rw [answerChat, bind_eq_bind, answer.ledger_bind_silent (silent_lookupCache ..),
    answer.value_lookupCache, hmiss]
  simp only
  rw [bind_eq_bind, ledger_bind, answer.ledger_uncounted (uncounted_completeChat ..)]
  simp only [loopLedger, outcome]
  cases ((completeChat state.fallback request).runWith answer).value with
  | ok success =>
      refine ⟨true, ?_⟩
      simp only [bind_eq_bind, perform_bind]
      rw [ledger_op_silent _ rfl, ledger_bind, ledger_recordSucceededRequest,
        ledger_bind_silent _ (silent_storeInCache ..)]
      rfl
  | error failure =>
      refine ⟨false, ?_⟩
      simp only [bind_eq_bind]
      rw [ledger_bind, ledger_recordFallbackError]
      rfl

/-- An answer that is not streamed has no event stream. -/
theorem answerChat_value_ne_sse (eventStream : Gateway Unit) :
    ((answerChat state key request requestId).runWith answer).value ≠ .ok (.sse eventStream) := by
  rw [answerChat, bind_eq_bind, runWith_bind, answer.value_lookupCache]
  cases answer.cached state key request with
  | some response => exact fun h => nomatch h
  | none =>
      simp only [bind_eq_bind, runWith_bind]
      cases ((completeChat state.fallback request).runWith answer).value with
      | ok success =>
          simp only [perform_bind, runWith_op, runWith_bind, pure_eq_ret, runWith_ret]
          exact fun h => nomatch h
      | error failure =>
          simp only [runWith_bind, pure_eq_ret, runWith_ret]
          exact fun h => nomatch h

theorem ledger_serve_ret {result : Except AppError Response}
    (h : ∀ eventStream, result ≠ .ok (.sse eventStream)) :
    answer.ledger (serve (.ret result)) = ([], 0) := by
  match result with
  | .error error => rfl
  | .ok (.chat cache response) => rfl
  | .ok (.responses cache response) => rfl
  | .ok (.sse eventStream) => exact absurd rfl (h eventStream)

/-- The request is within its token budget and gets its slots. -/
def admitsRequest : Bool :=
  (state.admission.checkTokenBudget request).isOk &&
    (answer (.tryAcquireRequest (poolNameForRequest state request))).isOk

/-- The condition on a request that is routed by the chat route. -/
def ChatCounted : Prop :=
  if request.streamEnabled then
    NoAttemptLost answer.admits (answer.streamVerdict state.fallback request)
      (answer.candidates request)
  else
    answer.cached state key request = none ∧
      NoAttemptLost answer.admits (answer.chatVerdict state.fallback request)
        (answer.candidates request)

theorem balanced_answerChat_iff :
    Balanced (answer.ledger (serve ((answerChat state key request requestId).bind fun result =>
      .op (.dropAdmissionGuard guard) fun _ => .op (.metrics .endRequest) fun _ =>
        .ret result))) ↔
      answer.cached state key request = none ∧
        NoAttemptLost answer.admits (answer.chatVerdict state.fallback request)
          (answer.candidates request) := by
  have hrest : answer.ledger (serve ((answerChat state key request requestId).bind fun result =>
      .op (.dropAdmissionGuard guard) fun _ => .op (.metrics .endRequest) fun _ =>
        .ret result)) = answer.ledger (answerChat state key request requestId) := by
    rw [serve_bind, ledger_bind, serve_op, ledger_op_silent _ rfl, serve_op,
      ledger_op_silent _ rfl,
      answer.ledger_serve_ret (answer.answerChat_value_ne_sse state key request requestId),
      List.append_nil, Nat.add_zero]
  rw [hrest]
  cases hcached : answer.cached state key request with
  | some response =>
      rw [answer.ledger_answerChat_hit _ _ _ _ hcached]
      exact ⟨fun h => absurd h not_balanced_nil, fun h => nomatch h.1⟩
  | none =>
      obtain ⟨success, hledger⟩ := answer.ledger_answerChat_miss state key request requestId hcached
      rw [hledger, loopLedger, balanced_one, chat_attempts_eq_calls_iff]
      exact ⟨fun h => ⟨rfl, h⟩, fun h => h.2⟩

theorem balanced_routeChat_iff :
    Balanced (answer.ledger (serve (routeChat state key request requestId))) ↔
      ((answer (.tryAcquireRequest (poolNameForRequest state request))).isOk = true →
        answer.ChatCounted state key request) := by
  rw [routeChat, bind_eq_bind, perform_bind, serve_op, ledger_op_silent _ rfl]
  cases answer (.tryAcquireRequest (poolNameForRequest state request)) with
  | error rejection =>
      refine ⟨fun _ h => (nomatch h), fun _ => ?_⟩
      simp only [bind_eq_bind, serve_bind]
      rw [ledger_bind, ledger_recordFailedRequest]
      exact balanced_one.mpr rfl
  | ok guard =>
      unfold ChatCounted
      simp only [Except.isOk, Except.toBool, forall_true_left]
      cases hstream : request.streamEnabled with
      | true =>
          simp only [if_true]
          obtain ⟨success, hledger⟩ := answer.ledger_serve_stream state key request guard
            ⟨state, chatCompletionsRoute, requestId, some request⟩ answer.ledger_chatEventStream
          rw [← stream_attempts_eq_calls_iff]
          exact (iff_of_eq (congrArg Balanced hledger)).trans balanced_one
      | false =>
          simp only [Bool.false_eq_true, if_false]
          exact answer.balanced_answerChat_iff state key request requestId guard

/-- The condition on a request to the chat route.  A request that is turned away before
it is routed is counted. -/
def ChatRequestCounted : Prop :=
  request.validationError state.chatValidationLimits = none →
    answer.admitsRequest state (resolveRequestModelAlias state request) = true →
      answer.ChatCounted state key (resolveRequestModelAlias state request)

theorem balanced_chatCompletions_iff :
    Balanced (answer.ledger (serve (chatCompletions state key requestId (some request)))) ↔
      answer.ChatRequestCounted state key request := by
  rw [chatCompletions, bind_eq_bind, perform_bind, serve_op, ledger_op_silent _ rfl]
  unfold ChatRequestCounted admitsRequest ChatCompletionRequest.validate
  cases request.validationError state.chatValidationLimits with
  | some message =>
      refine ⟨fun _ h => (nomatch h), fun _ => ?_⟩
      simp only [bind_eq_bind, serve_bind]
      rw [ledger_bind, ledger_recordFailedRequest]
      exact balanced_one.mpr rfl
  | none =>
      simp only [forall_true_left]
      cases state.admission.checkTokenBudget (resolveRequestModelAlias state request) with
      | error reason =>
          refine ⟨fun _ h => (nomatch h), fun _ => ?_⟩
          simp only [bind_eq_bind, serve_bind]
          rw [ledger_bind, ledger_recordFailedRequest]
          exact balanced_one.mpr rfl
      | ok _ => exact answer.balanced_routeChat_iff state key _ requestId

/-! ## The Responses route -/

/-- A run without entries is not balanced. -/
theorem not_balanced_of_uncounted {p : Gateway Unit} (hp : Uncounted p) :
    ¬ Balanced (answer.ledger p) := by
  rw [answer.ledger_uncounted hp]
  exact not_balanced_nil

/-- An answer that is not streamed makes no entry. -/
theorem uncounted_answerResponse :
    Uncounted (serve ((answerResponse state key request requestId).bind fun result =>
      .op (.dropAdmissionGuard guard) fun _ => .ret result)) := by
  simp only [answerResponse, bind_eq_bind, bind_assoc, serve_bind]
  refine Performs.bind ((silent_lookupCache ..).mono fun _ => isUncounted_of_isSilent) ?_
  intro hit
  cases hit with
  | some response => exact ⟨rfl, fun _ => trivial⟩
  | none =>
      rw [bind_assoc]
      refine Performs.bind (uncounted_completeChat ..) ?_
      intro result
      cases result with
      | ok success =>
          simp only [recordApiKeyUsage, perform_bind, op_bind, bind_assoc, serve_op]
          refine ⟨rfl, fun _ => ?_⟩
          refine Performs.bind ((silent_storeInCache ..).mono fun _ => isUncounted_of_isSilent) ?_
          exact fun _ => ⟨rfl, fun _ => trivial⟩
      | error failure =>
          cases failure with
          | noProviderAvailable => exact ⟨rfl, fun _ => trivial⟩
          | admissionRejected rejection => exact ⟨rfl, fun _ => ⟨rfl, fun _ => trivial⟩⟩
          | providerFailed error attempts => exact ⟨rfl, fun _ => trivial⟩

theorem balanced_routeResponse_iff (stream : Bool) :
    Balanced (answer.ledger (serve (routeResponse state key request requestId stream))) ↔
      stream = true ∧
        (answer (.tryAcquireRequest (poolNameForRequest state request))).isOk = true ∧
        NoAttemptLost answer.admits (answer.streamVerdict state.fallback request)
          (answer.candidates request) := by
  rw [routeResponse, bind_eq_bind, perform_bind, serve_op, ledger_op_silent _ rfl]
  cases answer (.tryAcquireRequest (poolNameForRequest state request)) with
  | error rejection =>
      refine ⟨fun h => absurd h ?_, fun h => nomatch h.2.1⟩
      exact answer.not_balanced_of_uncounted ⟨rfl, fun _ => trivial⟩
  | ok guard =>
      cases stream with
      | true =>
          obtain ⟨success, hledger⟩ := answer.ledger_serve_stream state key request guard
            ⟨state, responsesRoute, requestId, some request⟩ answer.ledger_responseEventStream
          simp only [if_true, bind_eq_bind, perform_bind, serve_op]
          rw [ledger_op_silent _ rfl, ← stream_attempts_eq_calls_iff]
          refine ((iff_of_eq (congrArg Balanced hledger)).trans balanced_one).trans ?_
          exact ⟨fun h => ⟨trivial, rfl, h⟩, fun h => h.2.2⟩
      | false =>
          refine ⟨fun h => absurd h ?_, fun h => nomatch h.1⟩
          exact answer.not_balanced_of_uncounted
            (uncounted_answerResponse state key request requestId guard)

/-- The condition on a request to the Responses route. -/
def ResponseRequestCounted (request : ResponseRequest) : Prop :=
  let chatRequest := resolveRequestModelAlias state request.intoChatRequest
  request.streamEnabled = true ∧
    chatRequest.validationError state.chatValidationLimits = none ∧
    answer.admitsRequest state chatRequest = true ∧
    NoAttemptLost answer.admits (answer.streamVerdict state.fallback chatRequest)
      (answer.candidates chatRequest)

theorem balanced_responses_iff (request : ResponseRequest) :
    Balanced (answer.ledger (serve (responses state key requestId request))) ↔
      answer.ResponseRequestCounted state request := by
  unfold responses ResponseRequestCounted admitsRequest ChatCompletionRequest.validate
  simp only
  generalize resolveRequestModelAlias state request.intoChatRequest = chatRequest
  cases chatRequest.validationError state.chatValidationLimits with
  | some message =>
      refine ⟨fun h => absurd h ?_, fun h => nomatch h.2.1⟩
      exact answer.not_balanced_of_uncounted trivial
  | none =>
      simp only [true_and]
      cases state.admission.checkTokenBudget chatRequest with
      | error reason =>
          refine ⟨fun h => absurd h ?_, fun h => nomatch h.2.1⟩
          exact answer.not_balanced_of_uncounted ⟨rfl, fun _ => trivial⟩
      | ok _ => exact answer.balanced_routeResponse_iff state key chatRequest requestId _

end Answers

/-- A request is counted once exactly when it is a request to the chat route that is
turned away, or is neither answered from the cache nor loses an attempt, or a streamed
request to the Responses route that is routed and loses no attempt. -/
theorem request_counted_once_iff (answer : Answers) (state : AppState) (key : AuthenticatedKey)
    (requestId : Uuid) :
    (∀ request : ChatCompletionRequest,
      CountedOnce ((serve (chatCompletions state key requestId (some request))).runWith
        answer).trace ↔ answer.ChatRequestCounted state key request) ∧
    (∀ request : ResponseRequest,
      CountedOnce ((serve (responses state key requestId request)).runWith answer).trace ↔
        answer.ResponseRequestCounted state request) :=
  ⟨fun request => (answer.countedOnce_iff_balanced _).trans
      (answer.balanced_chatCompletions_iff state key request requestId),
    fun request => (answer.countedOnce_iff_balanced _).trans
      (answer.balanced_responses_iff state key requestId request)⟩

/-- A state without limits, with a cache that keeps one answer. -/
def plainState (responseCache : Bool) : AppState where
  fallback := plainContext
  responseCache := responseCache
  cacheDigest := fun _ => some "digest"

def plainResponse : ChatCompletionResponse :=
  ⟨"chatcmpl-0", "chat.completion", 0, "m", "mock-primary", [], {}⟩

/-- The answers of two providers that serve, and of a cache that has the answer. -/
def servingAnswers : Answers
  | .cacheGet _ => some plainResponse
  | o => twoCandidates (fun _ => true) (fun _ => .ok plainResponse) (fun _ => .error .timeout) o

/-- A chat request answered from the cache is not counted, and neither is a request to
the Responses route that is served without a stream. -/
theorem cached_and_unstreamed_uncounted :
    ¬ CountedOnce ((serve (chatCompletions (plainState true) { id := "key" } 0
        (some plainRequest))).runWith servingAnswers).trace ∧
      ¬ CountedOnce ((serve (responses (plainState false) { id := "key" } 0
        { model := some "m", input := .text "hi" })).runWith servingAnswers).trace := by
  rw [countedOnce_iff, countedOnce_iff]
  decide +kernel

end RustyGate
