/-
The Responses route (`src/routes/compat.rs`).

It routes the chat request a Responses request stands for.  Unlike the chat route it
records nothing for an answer that is not streamed, and nothing for a request that is
turned away before it is routed.  Its event stream accounts for the request before it
hands out `[DONE]`.
-/
import RustyGate.Routes.Shared

namespace RustyGate

open Effect Gateway

def maxStreamOutputChars : Nat := 256 * 1024

def responsesRoute : String := "/v1/responses"

/-! ## Streamed answers -/

/-- `response_stream_error_event`. -/
def responseErrorEvent (error : AppError) : SseEvent := .responseError error.publicMessage

namespace StreamJob

/-- The loop over the choices of a chunk, with the text so far. -/
def responseChoices (job : StreamJob) : List ChatChunkChoice → String → Gateway (Turn String)
  | [], text => return .goOn text
  | choice :: rest, text =>
      match choice.delta.content with
      | none => job.responseChoices rest text
      | some delta =>
          if maxStreamOutputChars < text.length + delta.length then do
            return .stop text (← job.giveUp responseErrorEvent .midStreamFailure)
          else do
            ask (.yield (.responseTextDelta
              { itemId := openaiId "msg" job.subject.requestId
                outputIndex := 0
                contentIndex := 0
                delta := delta }))
            job.responseChoices rest (text ++ delta)

/-- One turn of the loop. -/
def responseTurn (job : StreamJob) : String → Poll → Gateway (Turn String)
  | text, .item (.ok (.chunk chunk)) => job.responseChoices chunk.choices text
  | text, .item (.ok (.completed usage)) =>
      return .stop text { usage := some usage, attempts := job.success.attempts }
  | text, .item (.error error) => do
      return .stop text (← job.breakOff responseErrorEvent error .midStreamFailure)
  | text, .idle => do
      return .stop text (← job.breakOff responseErrorEvent .timeout .idleTimeout)

def responseEnded (job : StreamJob) (text : String) : Gateway (String × StreamEnd) := do
  return (text, ← job.giveUp responseErrorEvent .incomplete)

/-- What is recorded and handed out once the loop has ended. -/
def finishResponseStream (job : StreamJob) (text : String) (finish : StreamEnd) :
    Gateway Unit := do
  let latencyMs ← ask (.elapsedMs none)
  match finish.failed, finish.usage with
  | false, some usage =>
      job.recordSucceededStream usage finish.attempts latencyMs
      ask (.yield (.responseCompleted (responseObject job.subject.requestId
        job.success.context.created job.success.context.model text usage)))
      ask (.yield .done)
  | _, _ => job.recordFailedStream finish latencyMs

def responseEventStream (job : StreamJob) : Gateway Unit := do
  let (text, finish) ← streamEvents job.success.providerName job.responseTurn
    job.responseEnded job.success.firstEvent job.success.stream ""
  job.finishResponseStream text finish
  job.dropGuards

end StreamJob

def streamResponse (state : AppState) (key : AuthenticatedKey) (request : ChatCompletionRequest)
    (requestId : Uuid) (admissionGuard : GuardId) : Gateway (Except AppError Response) := do
  let subject := ⟨state, responsesRoute, requestId, some request⟩
  match ← completeChatStream state.fallback request with
  | .ok success =>
      return .ok (.sse (StreamJob.responseEventStream ⟨subject, key, success, admissionGuard⟩))
  | .error failure =>
      let error ← recordFallbackError subject failure
      ask (.dropAdmissionGuard admissionGuard)
      metrics .endRequest
      return .error error

/-! ## The handler -/

/-- The Responses answer for a chat answer: the text of its first choice. -/
def responseFor (requestId : Uuid) (response : ChatCompletionResponse) : ResponseObject :=
  responseObject requestId response.created response.model
    ((response.choices.head?.map (·.message.content)).getD "") response.usage

/-- The errors behind a failed `complete_chat`.  Only a rejection is recorded. -/
def responseError (requestId : Uuid) : FallbackError → Gateway AppError
  | .noProviderAvailable => return .noProviderAvailable (some requestId)
  | .admissionRejected rejection => do
      recordAdmissionRejection rejection.reason
      return rejection.intoAppError (some requestId)
  | .providerFailed error _ => return .fromProviderError error (some requestId)

/-- The answer to an admitted request that is not streamed. -/
def answerResponse (state : AppState) (key : AuthenticatedKey) (request : ChatCompletionRequest)
    (requestId : Uuid) : Gateway (Except AppError Response) := do
  match ← lookupCache state key request with
  | some cached => return .ok (.responses .hit (responseFor requestId cached))
  | none =>
      match ← completeChat state.fallback request with
      | .ok success =>
          recordApiKeyUsage key success.response.usage.totalTokens
            success.costEstimate.totalCostUsd
          storeInCache state key request success.response
          return .ok (.responses .miss (responseFor requestId success.response))
      | .error failure => return .error (← responseError requestId failure)

/-- The handler once the request is known to be well formed and within its budget. -/
def routeResponse (state : AppState) (key : AuthenticatedKey) (request : ChatCompletionRequest)
    (requestId : Uuid) (stream : Bool) : Gateway (Except AppError Response) := do
  match ← ask (.tryAcquireRequest (poolNameForRequest state request)) with
  | .error rejection =>
      recordAdmissionRejection rejection.reason
      return .error (rejection.intoAppError (some requestId))
  | .ok admissionGuard =>
      if stream then
        metrics .beginRequest
        streamResponse state key request requestId admissionGuard
      else
        let answer ← answerResponse state key request requestId
        ask (.dropAdmissionGuard admissionGuard)
        return answer

def responses (state : AppState) (key : AuthenticatedKey) (requestId : Uuid)
    (request : ResponseRequest) : Gateway (Except AppError Response) :=
  let chatRequest := resolveRequestModelAlias state request.intoChatRequest
  match chatRequest.validate (some requestId) state.chatValidationLimits with
  | .error error => return .error error
  | .ok () =>
      match state.admission.checkTokenBudget chatRequest with
      | .error reason => do
          recordAdmissionRejection reason
          return .error (.invalidRequest (admissionInvalidRequestMessage reason)
            (some requestId))
      | .ok () => routeResponse state key chatRequest requestId request.streamEnabled

/-- The request that the Responses route lets through to the providers. -/
def routedResponse (state : AppState) (request : ResponseRequest) :
    Option ChatCompletionRequest :=
  let resolved := resolveRequestModelAlias state request.intoChatRequest
  if (resolved.validationError state.chatValidationLimits).isNone ∧
      (state.admission.checkTokenBudget resolved).isOk then some resolved
  else none

/-- A request is turned away or routed. -/
theorem responses_cases {state : AppState} {key : AuthenticatedKey} {requestId : Uuid}
    {request : ResponseRequest} {motive : Gateway (Except AppError Response) → Prop}
    (hinvalid : ∀ error, motive (.ret (.error error)))
    (hbudget : ∀ reason error, motive ((recordAdmissionRejection reason).bind fun _ =>
      .ret (.error error)))
    (hrouted : ∀ chatRequest, routedResponse state request = some chatRequest →
      some request.intoChatRequest.messages = some chatRequest.messages →
      chatRequest.streamEnabled = request.streamEnabled →
      motive (routeResponse state key chatRequest requestId request.streamEnabled)) :
    motive (responses state key requestId request) := by
  unfold responses
  simp only
  cases hvalid : (resolveRequestModelAlias state request.intoChatRequest).validate
      (some requestId) state.chatValidationLimits with
  | error error => exact hinvalid error
  | ok _ =>
      simp only
      cases hwithin : state.admission.checkTokenBudget
          (resolveRequestModelAlias state request.intoChatRequest) with
      | error reason => exact hbudget reason _
      | ok _ =>
          have hnone := (ChatCompletionRequest.validate_eq_ok_iff _ _ _).mp hvalid
          refine hrouted _ ?_ rfl rfl
          simp [routedResponse, hnone, hwithin, Except.isOk, Except.toBool]

end RustyGate
