/-
What a request to one of the routes holds.

A handler starts and ends with nothing, whatever its answers, unless it returns a
streamed answer.  The event stream then starts with the guard of the request and with the
slot of the provider, and gives both back at its end.
-/
import RustyGate.Gateway.Phases
import RustyGate.Routes.Streams

namespace RustyGate

open Effect Effect.Program Gateway

/-- A program that does nothing the phase is concerned with. -/
abbrev Neutral {α : Type} (p : Gateway α) : Prop := p.Performs fun o => o.isNeutral = true

/-! ## Recording -/

theorem isNeutral_of_isPlain {o : Op} (h : o.isPlain = true) : o.isNeutral = true := by
  cases o <;> first | rfl | cases h

theorem log_neutral (subject : Subject) (finalProvider : Option String) (status : RequestLogStatus)
    (latencyMs : UInt64) (usage : Option TokenUsage) (cost : Option CostEstimate)
    (category : Option RequestErrorCategory) (attempts : List ProviderAttempt) :
    Neutral (subject.log finalProvider status latencyMs usage cost category attempts) :=
  (log_performs ..).mono fun _ => isNeutral_of_isPlain

theorem recordFailedRequest_neutral (subject : Subject) (rejected : Option AdmissionRejectionReason)
    (category : Option RequestErrorCategory) (attempts : List ProviderAttempt) :
    Neutral (recordFailedRequest subject rejected category attempts) := by
  cases rejected with
  | none => exact ⟨rfl, fun _ => ⟨rfl, fun _ => log_neutral ..⟩⟩
  | some reason => exact ⟨rfl, fun _ => ⟨rfl, fun _ => ⟨rfl, fun _ => log_neutral ..⟩⟩⟩

theorem recordFallbackError_neutral (subject : Subject) (failure : FallbackError) :
    Neutral (recordFallbackError subject failure) := by
  cases failure <;> exact (recordFailedRequest_neutral ..).bind fun _ => trivial

theorem recordSucceededRequest_neutral (subject : Subject) (key : AuthenticatedKey)
    (provider : String) (usage : TokenUsage) (cost : CostEstimate) (latencyMs : UInt64)
    (attempts : List ProviderAttempt) :
    Neutral (recordSucceededRequest subject key provider usage cost latencyMs attempts) :=
  ⟨rfl, fun _ => (log_neutral ..).bind fun _ => ⟨rfl, fun _ => trivial⟩⟩

theorem responseError_neutral (requestId : Uuid) (failure : FallbackError) :
    Neutral (responseError requestId failure) := by
  cases failure with
  | noProviderAvailable => trivial
  | admissionRejected rejection => exact ⟨rfl, fun _ => trivial⟩
  | providerFailed error attempts => trivial

theorem lookupCache_neutral (state : AppState) (key : AuthenticatedKey)
    (request : ChatCompletionRequest) : Neutral (lookupCache state key request) :=
  lookupCache_performs (fun _ => rfl) (fun _ => rfl) state key request

theorem storeInCache_neutral (state : AppState) (key : AuthenticatedKey)
    (request : ChatCompletionRequest) (response : ChatCompletionResponse) :
    Neutral (storeInCache state key request response) :=
  storeInCache_performs (fun _ _ => rfl) state key request response

/-! ## Event streams -/

section Loop

variable {σ : Type} {provider : String} {turn : σ → Poll → Gateway (Turn σ)}
  {ended : σ → Gateway (σ × StreamEnd)} (hturn : ∀ x poll, Neutral (turn x poll))
  (hended : ∀ x, Neutral (ended x))

include hturn hended

/-- The loop polls the stream of a provider whose slot is held. -/
theorem streamLoop_follows {s : Phase} {g : GuardId} (hs : s.call = .settled provider g)
    (upstream : ProviderStream) (x : σ) :
    Follows Phase.watch (fun _ s' => s' = s) s
      (streamLoop provider turn ended upstream x) := by
  induction upstream generalizing x with
  | nil => exact fun _ => ⟨s, Phase.move_poll_settled hs, follows_neutral (hended x) s⟩
  | cons poll rest ih =>
      rw [streamLoop]
      simp only [bind_eq_bind, perform_bind, pure_eq_ret]
      refine fun _ => ⟨s, Phase.move_poll_settled hs, ?_⟩
      refine Follows.bind (follows_neutral (hturn x poll) s) ?_
      rintro (x' | ⟨x', finish⟩) s' rfl
      · exact ih x'
      · exact rfl

theorem streamEvents_follows {s : Phase} {g : GuardId} (hs : s.call = .settled provider g)
    (first : ProviderStreamEvent) (upstream : ProviderStream) (x : σ) :
    Follows Phase.watch (fun _ s' => s' = s) s
      (streamEvents provider turn ended first upstream x) := by
  refine Follows.bind (follows_neutral (hturn x _) s) ?_
  rintro (x' | ⟨x', finish⟩) s' rfl
  · exact streamLoop_follows hturn hended hs upstream x'
  · exact rfl

end Loop

namespace StreamJob

variable (job : StreamJob)

/-- The phase an event stream starts in, for a request of the given pool. -/
def phase (poolName : Option String) : Phase where
  requestGuard := some (poolName, job.admissionGuard)
  call := .settled job.success.providerName job.success.admissionGuard

theorem chatTurn_neutral (x : Unit) (poll : Poll) : Neutral (job.chatTurn x poll) := by
  match poll with
  | .item (.ok (.chunk chunk)) =>
      simp only [chatTurn]
      split
      · exact ⟨rfl, fun _ => trivial⟩
      · exact ⟨rfl, fun _ => trivial⟩
  | .item (.ok (.completed usage)) => exact ⟨rfl, fun _ => trivial⟩
  | .item (.error error) => exact ⟨rfl, fun _ => ⟨rfl, fun _ => trivial⟩⟩
  | .idle => exact ⟨rfl, fun _ => ⟨rfl, fun _ => trivial⟩⟩

theorem chatEnded_neutral (x : Unit) : Neutral (job.chatEnded x) := ⟨rfl, fun _ => trivial⟩

theorem responseChoices_neutral (choices : List ChatChunkChoice) (text : String) :
    Neutral (job.responseChoices choices text) := by
  induction choices generalizing text with
  | nil => trivial
  | cons choice rest ih =>
      rw [responseChoices]
      cases choice.delta.content with
      | none => exact ih text
      | some delta =>
          simp only
          split
          · exact ⟨rfl, fun _ => trivial⟩
          · exact ⟨rfl, fun _ => ih (text ++ delta)⟩

theorem responseTurn_neutral (text : String) (poll : Poll) :
    Neutral (job.responseTurn text poll) := by
  match poll with
  | .item (.ok (.chunk chunk)) => exact job.responseChoices_neutral chunk.choices text
  | .item (.ok (.completed usage)) => trivial
  | .item (.error error) => exact ⟨rfl, fun _ => ⟨rfl, fun _ => trivial⟩⟩
  | .idle => exact ⟨rfl, fun _ => ⟨rfl, fun _ => trivial⟩⟩

theorem responseEnded_neutral (text : String) : Neutral (job.responseEnded text) :=
  ⟨rfl, fun _ => trivial⟩

theorem recordFailedStream_neutral (finish : StreamEnd) (latencyMs : UInt64) :
    Neutral (job.recordFailedStream finish latencyMs) :=
  ⟨rfl, fun _ => ⟨rfl, fun _ => ⟨rfl, fun _ => log_neutral ..⟩⟩⟩

theorem recordSucceededStream_neutral (usage : TokenUsage) (attempts : List ProviderAttempt)
    (latencyMs : UInt64) : Neutral (job.recordSucceededStream usage attempts latencyMs) :=
  ⟨rfl, fun _ => ⟨rfl, fun _ => recordSucceededRequest_neutral ..⟩⟩

theorem recordChatStream_neutral (finish : StreamEnd) : Neutral (job.recordChatStream finish) := by
  refine ⟨rfl, fun latencyMs => ?_⟩
  simp only
  split
  · exact job.recordSucceededStream_neutral ..
  · exact job.recordFailedStream_neutral ..

theorem finishResponseStream_neutral (text : String) (finish : StreamEnd) :
    Neutral (job.finishResponseStream text finish) := by
  refine ⟨rfl, fun latencyMs => ?_⟩
  simp only
  split
  · exact (job.recordSucceededStream_neutral ..).bind fun _ =>
      ⟨rfl, fun _ => ⟨rfl, fun _ => trivial⟩⟩
  · exact job.recordFailedStream_neutral ..

variable (poolName : Option String)

theorem dropGuards_follows :
    Follows Phase.watch (fun _ s => s = {}) (job.phase poolName) job.dropGuards := by
  refine fun _ =>
    ⟨{ requestGuard := some (poolName, job.admissionGuard) }, ?_, fun _ => ⟨_, rfl, ?_⟩⟩
  · exact Phase.dropGuard_of_move (Phase.move_drop_settled rfl)
  · exact fun _ => ⟨{}, Phase.dropGuard_request poolName _, fun _ => ⟨_, rfl, rfl⟩⟩

theorem chatEventStream_follows :
    Follows Phase.watch (fun _ s => s = {}) (job.phase poolName) job.chatEventStream := by
  refine Follows.bind
    (streamEvents_follows job.chatTurn_neutral job.chatEnded_neutral rfl _ _ ()) ?_
  rintro ⟨_, finish⟩ s rfl
  refine Follows.bind (follows_neutral (job.recordChatStream_neutral finish) _) ?_
  rintro _ s rfl
  exact job.dropGuards_follows poolName

theorem responseEventStream_follows :
    Follows Phase.watch (fun _ s => s = {}) (job.phase poolName) job.responseEventStream := by
  refine Follows.bind
    (streamEvents_follows job.responseTurn_neutral job.responseEnded_neutral rfl _ _ "") ?_
  rintro ⟨text, finish⟩ s rfl
  refine Follows.bind (follows_neutral (job.finishResponseStream_neutral text finish) _) ?_
  rintro _ s rfl
  exact job.dropGuards_follows poolName

end StreamJob

/-! ## Handlers -/

/-- A streamed answer gives back what the handler still holds, and any other answer
leaves nothing to give back. -/
def LeavesResponse : Except AppError Response → Phase → Prop
  | .ok (.sse eventStream), s => Follows Phase.watch (fun _ s' => s' = {}) s eventStream
  | _, s => s = {}

theorem serve_follows {handler : Gateway (Except AppError Response)}
    (h : Follows Phase.watch LeavesResponse {} handler) :
    Follows Phase.watch (fun _ s => s = {}) {} (serve handler) := by
  refine Follows.bind h ?_
  rintro (error | response | response | eventStream) s hs
  · exact hs
  · exact hs
  · exact hs
  · exact hs

/-- An answer without a body that is still to be run. -/
def Whole (answer : Except AppError Response) : Prop :=
  ∀ eventStream, answer ≠ .ok (.sse eventStream)

theorem whole_error (error : AppError) : Whole (.error error) := fun _ h => nomatch h

/-- Giving back the guard of the request ends a handler, with whatever bookkeeping
follows. -/
theorem dropRequestGuard_follows {poolName : Option String} (g : GuardId)
    {answer : Except AppError Response} (hanswer : Whole answer) (after : Gateway Unit)
    (hafter : Neutral after) :
    Follows Phase.watch LeavesResponse { requestGuard := some (poolName, g) }
      ((ask (.dropAdmissionGuard g)).bind fun _ => after.bind fun _ => .ret answer) := by
  rw [perform_bind]
  refine fun _ => ⟨{}, Phase.dropGuard_request poolName g, ?_⟩
  refine Follows.bind (follows_neutral hafter {}) ?_
  rintro _ s rfl
  rcases answer with error | response | response | eventStream
  · exact rfl
  · exact rfl
  · exact rfl
  · exact absurd rfl (hanswer eventStream)

/-- A handler that is done before anything is acquired. -/
theorem refusal_follows (before : Gateway Unit) (hbefore : Neutral before) (error : AppError) :
    Follows Phase.watch LeavesResponse {} (before.bind fun _ => .ret (.error error)) := by
  refine Follows.bind (follows_neutral hbefore {}) ?_
  rintro _ s rfl
  exact rfl

section Routes

variable (state : AppState) (key : AuthenticatedKey) (requestId : Uuid)

theorem answerChat_follows {s : Phase} (hs : s.call = .idle) (request : ChatCompletionRequest) :
    Follows Phase.watch (fun answer s' => Whole answer ∧ s' = s) s
      (answerChat state key request requestId) := by
  refine Follows.bind (follows_neutral (lookupCache_neutral state key request) s) ?_
  rintro (_ | response) s' rfl
  · refine Follows.bind (completeChat_follows hs state.fallback request) ?_
    rintro (failure | success) s' rfl
    · refine Follows.bind (follows_neutral (recordFallbackError_neutral _ failure) _) ?_
      exact fun error s' hs' => ⟨whole_error error, hs'⟩
    · simp only [bind_eq_bind, perform_bind]
      refine fun latencyMs => ⟨_, rfl, ?_⟩
      refine Follows.bind (follows_neutral (recordSucceededRequest_neutral ..) _) ?_
      rintro _ s' rfl
      refine Follows.bind (follows_neutral (storeInCache_neutral ..) _) ?_
      exact fun _ s' hs' => ⟨(fun _ h => nomatch h), hs'⟩
  · exact ⟨(fun _ h => nomatch h), rfl⟩

theorem answerResponse_follows {s : Phase} (hs : s.call = .idle) (request : ChatCompletionRequest) :
    Follows Phase.watch (fun answer s' => Whole answer ∧ s' = s) s
      (answerResponse state key request requestId) := by
  refine Follows.bind (follows_neutral (lookupCache_neutral state key request) s) ?_
  rintro (_ | cached) s' rfl
  · refine Follows.bind (completeChat_follows hs state.fallback request) ?_
    rintro (failure | success) s' rfl
    · refine Follows.bind (follows_neutral (responseError_neutral requestId failure) _) ?_
      exact fun error s' hs' => ⟨whole_error error, hs'⟩
    · simp only [bind_eq_bind, recordApiKeyUsage, perform_bind]
      refine fun _ => ⟨_, rfl, ?_⟩
      refine Follows.bind (follows_neutral (storeInCache_neutral ..) _) ?_
      exact fun _ s' hs' => ⟨(fun _ h => nomatch h), hs'⟩
  · exact ⟨(fun _ h => nomatch h), rfl⟩

/-- Both routes stream alike: `eventStream` is the event stream of the route. -/
theorem stream_follows {subject : Subject} {eventStream : StreamJob → Gateway Unit}
    (hstream : ∀ (job : StreamJob) (poolName : Option String),
      Follows Phase.watch (fun _ s => s = {}) (job.phase poolName) (eventStream job))
    (request : ChatCompletionRequest) {poolName : Option String} (g : GuardId) :
    Follows Phase.watch LeavesResponse { requestGuard := some (poolName, g) }
      ((completeChatStream state.fallback request).bind fun
        | .ok success => .ret (.ok (.sse (eventStream ⟨subject, key, success, g⟩)))
        | .error failure => (recordFallbackError subject failure).bind fun error =>
            (ask (.dropAdmissionGuard g)).bind fun _ =>
              (metrics .endRequest).bind fun _ => .ret (.error error)) := by
  refine Follows.bind (completeChatStream_follows rfl state.fallback request) ?_
  rintro (failure | success) s hs
  · obtain rfl := hs
    refine Follows.bind (follows_neutral (recordFallbackError_neutral subject failure) _) ?_
    rintro error s rfl
    exact dropRequestGuard_follows g (whole_error error) (metrics .endRequest)
      ⟨rfl, fun _ => trivial⟩
  · obtain rfl := hs
    exact hstream ⟨subject, key, success, g⟩ poolName

theorem routeChat_follows (request : ChatCompletionRequest) :
    Follows Phase.watch LeavesResponse {} (routeChat state key request requestId) := by
  unfold routeChat
  simp only [bind_eq_bind, perform_bind]
  rintro (rejection | g)
  · refine ⟨{}, rfl, ?_⟩
    refine Follows.bind (follows_neutral (recordFailedRequest_neutral ..) {}) ?_
    rintro _ s rfl
    exact refusal_follows (metrics .endRequest) ⟨rfl, fun _ => trivial⟩ _
  · refine ⟨{ requestGuard := some (poolNameForRequest state request, g) }, rfl, ?_⟩
    simp only
    split
    · exact stream_follows state key StreamJob.chatEventStream_follows request g
    · refine Follows.bind (answerChat_follows state key requestId rfl request) ?_
      rintro answer s ⟨hwhole, rfl⟩
      exact dropRequestGuard_follows g hwhole (metrics .endRequest) ⟨rfl, fun _ => trivial⟩

/-- Whatever `chat_completions` answers, and however it gets there. -/
theorem chatCompletions_follows (body : Option ChatCompletionRequest) :
    Follows Phase.watch LeavesResponse {} (chatCompletions state key requestId body) := by
  refine chatCompletions_cases (motive := Follows Phase.watch LeavesResponse {})
    (fun _ h _ => ⟨{}, rfl, h⟩) ?_ fun request _ _ => routeChat_follows state key requestId request
  intro request rejected error _
  have hend : Neutral (metrics .endRequest) := ⟨rfl, fun _ => trivial⟩
  rw [← bind_assoc]
  exact refusal_follows _ ((recordFailedRequest_neutral ..).bind fun _ => hend) error

theorem routeResponse_follows (request : ChatCompletionRequest) (stream : Bool) :
    Follows Phase.watch LeavesResponse {} (routeResponse state key request requestId stream) := by
  unfold routeResponse
  simp only [bind_eq_bind, perform_bind]
  rintro (rejection | g)
  · exact ⟨{}, rfl, refusal_follows (recordAdmissionRejection rejection.reason)
      ⟨rfl, fun _ => trivial⟩ _⟩
  · refine ⟨{ requestGuard := some (poolNameForRequest state request, g) }, rfl, ?_⟩
    cases stream with
    | true =>
        refine fun _ => ⟨_, rfl, ?_⟩
        exact stream_follows state key StreamJob.responseEventStream_follows request g
    | false =>
        refine Follows.bind (answerResponse_follows state key requestId rfl request) ?_
        rintro answer s ⟨hwhole, rfl⟩
        exact dropRequestGuard_follows g hwhole (.ret ()) trivial

theorem responses_follows (request : ResponseRequest) :
    Follows Phase.watch LeavesResponse {} (responses state key requestId request) :=
  responses_cases (motive := Follows Phase.watch LeavesResponse {}) (fun _ => rfl)
    (fun reason => refusal_follows (recordAdmissionRejection reason) ⟨rfl, fun _ => trivial⟩)
    fun chatRequest _ _ _ => routeResponse_follows state key requestId chatRequest _

end Routes
end RustyGate
