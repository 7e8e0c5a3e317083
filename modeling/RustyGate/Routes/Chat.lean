/-
The chat route (`src/routes/chat.rs`).

A streamed answer is an event stream that runs after the handler has returned.  It hands
out `[DONE]` as soon as the provider has completed, and accounts for the request after
that.
-/
import RustyGate.Routes.Shared

namespace RustyGate

open Effect Gateway

def chatCompletionsRoute : String := "/v1/chat/completions"

/-! ## Streamed answers -/

namespace StreamJob

/-- `stream_error_payload`. -/
def chatErrorEvent (job : StreamJob) (error : AppError) : SseEvent :=
  .chatError error.publicMessage job.subject.requestId

/-- One turn of the loop.  Nothing is accumulated. -/
def chatTurn (job : StreamJob) : Unit → Poll → Gateway (Turn Unit)
  | (), .item (.ok (.chunk chunk)) => do
      let chunk := { chunk with id := openaiId "chatcmpl" job.subject.requestId }
      if job.subject.state.encodes chunk then
        ask (.yield (.chatChunk chunk))
        return .goOn ()
      else return .stop () (← job.giveUp job.chatErrorEvent .midStreamFailure)
  | (), .item (.ok (.completed usage)) => do
      ask (.yield .done)
      return .stop () { usage := some usage, attempts := job.success.attempts }
  | (), .item (.error error) => do
      return .stop () (← job.breakOff job.chatErrorEvent error .midStreamFailure)
  | (), .idle => do
      return .stop () (← job.breakOff job.chatErrorEvent .timeout .idleTimeout)

def chatEnded (job : StreamJob) : Unit → Gateway (Unit × StreamEnd)
  | () => do return ((), ← job.giveUp job.chatErrorEvent .incomplete)

/-- What is recorded once the loop has ended. -/
def recordChatStream (job : StreamJob) (finish : StreamEnd) : Gateway Unit := do
  let latencyMs ← ask (.elapsedMs none)
  match finish.failed, finish.usage with
  | false, some usage => job.recordSucceededStream usage finish.attempts latencyMs
  | _, _ => job.recordFailedStream finish latencyMs

def chatEventStream (job : StreamJob) : Gateway Unit := do
  let (_, finish) ← streamEvents job.success.providerName job.chatTurn job.chatEnded
    job.success.firstEvent job.success.stream ()
  job.recordChatStream finish
  job.dropGuards

end StreamJob

def streamChatCompletions (state : AppState) (key : AuthenticatedKey)
    (request : ChatCompletionRequest) (requestId : Uuid) (admissionGuard : GuardId) :
    Gateway (Except AppError Response) := do
  let subject := ⟨state, chatCompletionsRoute, requestId, some request⟩
  match ← completeChatStream state.fallback request with
  | .ok success =>
      return .ok (.sse (StreamJob.chatEventStream ⟨subject, key, success, admissionGuard⟩))
  | .error failure =>
      let error ← recordFallbackError subject failure
      ask (.dropAdmissionGuard admissionGuard)
      metrics .endRequest
      return .error error

/-! ## The handler -/

/-- The answer to an admitted request that is not streamed. -/
def answerChat (state : AppState) (key : AuthenticatedKey) (request : ChatCompletionRequest)
    (requestId : Uuid) : Gateway (Except AppError Response) := do
  let subject := ⟨state, chatCompletionsRoute, requestId, some request⟩
  match ← lookupCache state key request with
  | some response => return .ok (.chat .hit response)
  | none =>
      match ← completeChat state.fallback request with
      | .ok success =>
          let latencyMs ← ask (.elapsedMs none)
          recordSucceededRequest subject key success.providerName success.response.usage
            success.costEstimate latencyMs success.attempts
          storeInCache state key request success.response
          return .ok (.chat .miss success.response)
      | .error failure => return .error (← recordFallbackError subject failure)

/-- The handler once the request is known to be well formed and within its budget. -/
def routeChat (state : AppState) (key : AuthenticatedKey) (request : ChatCompletionRequest)
    (requestId : Uuid) : Gateway (Except AppError Response) := do
  match ← ask (.tryAcquireRequest (poolNameForRequest state request)) with
  | .error rejection =>
      recordFailedRequest ⟨state, chatCompletionsRoute, requestId, some request⟩
        (some rejection.reason) (some .admissionRejected) []
      metrics .endRequest
      return .error (rejection.intoAppError (some requestId))
  | .ok admissionGuard =>
      if request.streamEnabled then
        streamChatCompletions state key request requestId admissionGuard
      else
        let answer ← answerChat state key request requestId
        ask (.dropAdmissionGuard admissionGuard)
        metrics .endRequest
        return answer

/-- `body` is `none` if it is not JSON of the right shape. -/
def chatCompletions (state : AppState) (key : AuthenticatedKey) (requestId : Uuid)
    (body : Option ChatCompletionRequest) : Gateway (Except AppError Response) := do
  metrics .beginRequest
  match body with
  | none =>
      recordFailedRequest ⟨state, chatCompletionsRoute, requestId, none⟩ none
        (some .invalidRequest) []
      metrics .endRequest
      return .error (.invalidRequest
        "request body must be valid JSON matching the chat completion schema" (some requestId))
  | some request =>
      match request.validate (some requestId) state.chatValidationLimits with
      | .error error =>
          recordFailedRequest ⟨state, chatCompletionsRoute, requestId, some request⟩ none
            (some .invalidRequest) []
          metrics .endRequest
          return .error error
      | .ok () =>
          let request := resolveRequestModelAlias state request
          match state.admission.checkTokenBudget request with
          | .error reason =>
              recordFailedRequest ⟨state, chatCompletionsRoute, requestId, some request⟩
                (some reason) (some .invalidRequest) []
              metrics .endRequest
              return .error (.invalidRequest (admissionInvalidRequestMessage reason)
                (some requestId))
          | .ok () => routeChat state key request requestId

/-- The request that the chat route lets through to the providers. -/
def routedChat (state : AppState) (body : Option ChatCompletionRequest) :
    Option ChatCompletionRequest :=
  body.bind fun request =>
    let resolved := resolveRequestModelAlias state request
    if (request.validationError state.chatValidationLimits).isNone ∧
        (state.admission.checkTokenBudget resolved).isOk then some resolved
    else none

/-- Behind the start of its metrics, a request is refused with a record of it or routed. -/
theorem chatCompletions_cases {state : AppState} {key : AuthenticatedKey} {requestId : Uuid}
    {body : Option ChatCompletionRequest} {motive : Gateway (Except AppError Response) → Prop}
    (hbegin : ∀ handler, motive handler → motive ((metrics .beginRequest).bind fun _ => handler))
    (hrefused : ∀ request rejected error, request.map (·.messages) = body.map (·.messages) →
      motive ((recordFailedRequest ⟨state, chatCompletionsRoute, requestId, request⟩ rejected
        (some .invalidRequest) []).bind fun _ =>
          (metrics .endRequest).bind fun _ => .ret (.error error)))
    (hrouted : ∀ request, routedChat state body = some request →
      body.map (·.messages) = some request.messages →
      motive (routeChat state key request requestId)) :
    motive (chatCompletions state key requestId body) := by
  refine hbegin _ ?_
  cases body with
  | none => exact hrefused none none _ rfl
  | some request =>
      simp only
      cases hvalid : request.validate (some requestId) state.chatValidationLimits with
      | error error => exact hrefused (some request) none error rfl
      | ok _ =>
          simp only
          cases hbudget : state.admission.checkTokenBudget
              (resolveRequestModelAlias state request) with
          | error reason => exact hrefused (some (resolveRequestModelAlias state request)) _ _ rfl
          | ok _ =>
              have hnone := (request.validate_eq_ok_iff _ _).mp hvalid
              refine hrouted _ ?_ rfl
              simp [routedChat, hnone, hbudget, Except.isOk, Except.toBool]

end RustyGate
