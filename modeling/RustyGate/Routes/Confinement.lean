/-
What a request can do.

Whatever the providers, the clocks and the caches answer, a request to one of the routes does
only what concerns itself: `Service.Allows` lists it.  A request that is refused for its shape
or its budget reaches no cache, no circuit, no slot and no provider.  One that is routed is
sent to providers as it is but for the name of the model.  The cache is used only where it is
on for the key, and under the key of the request.  Usage is charged to the caller, the log has
the content of the messages only where this is configured, and every event that has an id
carries that of the request.
-/
import RustyGate.Routes.Chat
import RustyGate.Routes.Compat
import RustyGate.Routes.Recording
import RustyGate.Routing.Search

namespace RustyGate

open Effect Effect.Program Gateway

/-- A request in the hands of a route.  `messages` is `none` for a body that is no request, and
`routed` is the request that goes to the providers unless it is refused before. -/
structure Service where
  state : AppState
  key : AuthenticatedKey
  route : String
  requestId : Uuid
  messages : Option (List ChatMessage)
  routed : Option ChatCompletionRequest

namespace Service

variable (v : Service)

/-- The entry of the cache that the request may use. -/
def Caches (cacheKey : String) : Prop :=
  v.state.responseCache = true ∧ v.key.cacheEnabled = true ∧
    ∃ request, v.routed = some request ∧
      cacheKeyForRequest v.state.cacheDigest request = some cacheKey

def Logs (entry : RequestLogEntry) : Prop :=
  v.state.requestLogging.enabled = true ∧ v.state.requestLogStore = true ∧
    entry.requestId = v.requestId ∧ entry.route = v.route ∧
    entry.promptMessages =
      if v.state.requestLogging.logPromptContent then v.messages else none

/-- The event, if it has an id, carries that of the request. -/
def Owns : SseEvent → Prop
  | .chatChunk chunk => chunk.id = openaiId "chatcmpl" v.requestId
  | .chatError _ requestId => requestId = v.requestId
  | .responseTextDelta payload => payload.itemId = openaiId "msg" v.requestId
  | .responseCompleted response => response.id = openaiId "resp" v.requestId
  | .responseError _ | .done => True

def Allows : Op → Prop
  | .candidateProviders request => v.routed = some request
  | .tryAcquireRequest poolName =>
      ∃ request, v.routed = some request ∧ poolName = poolNameForRequest v.state request
  | .chatCompletion _ _ sent | .chatCompletionStream _ _ sent =>
      ∃ request model, v.routed = some request ∧ sent = requestForProvider request model
  | .recordPrefixAffinity fingerprint _ =>
      ∃ request, v.routed = some request ∧
        (v.state.fallback.fingerprintRequest request).fingerprint = some fingerprint
  | .allowProviderCall _ _ | .recordSuccess _ _ | .recordFailure _ _ | .tryAcquireProvider _ _
  | .dropAdmissionGuard _ | .pollStream _ | .sleep _ _ => v.routed.isSome
  | .cacheGet cacheKey | .cachePut cacheKey _ => v.Caches cacheKey
  | .recordRequest entry => v.Logs entry
  | .recordUsage apiKeyId _ _ => apiKeyId = v.key.id
  | .yield event => v.Owns event
  | .elapsedMs _ | .streamElapsedMs | .unixTimestamp | .metrics _ => True

end Service

/-- The subject of the records is the request. -/
structure Subject.Concerns (s : Subject) (v : Service) : Prop where
  state : s.state = v.state
  route : s.route = v.route
  requestId : s.requestId = v.requestId
  messages : s.request.map (·.messages) = v.messages

section Confinement

variable {v : Service} {subject : Subject} {request : ChatCompletionRequest}

/-! ## Recording -/

theorem log_allowed (hs : subject.Concerns v) (finalProvider : Option String)
    (status : RequestLogStatus) (latencyMs : UInt64) (usage : Option TokenUsage)
    (cost : Option CostEstimate) (category : Option RequestErrorCategory)
    (attempts : List ProviderAttempt) :
    (subject.log finalProvider status latencyMs usage cost category attempts).Performs
      v.Allows := by
  refine ⟨trivial, fun now => ?_⟩
  show (recordRequestMetadata _ _).Performs _
  unfold recordRequestMetadata
  split
  · rename_i hlogged
    refine ⟨?_, fun _ => trivial⟩
    rw [hs.state] at hlogged
    refine ⟨hlogged.1, hlogged.2, hs.requestId, hs.route, ?_⟩
    rw [← hs.messages, hs.state]
    rfl
  · trivial

theorem recordFailedRequest_allowed (hs : subject.Concerns v)
    (rejected : Option AdmissionRejectionReason) (category : Option RequestErrorCategory)
    (attempts : List ProviderAttempt) :
    (recordFailedRequest subject rejected category attempts).Performs v.Allows := by
  cases rejected with
  | none => exact ⟨trivial, fun _ => ⟨trivial, fun _ => log_allowed hs ..⟩⟩
  | some reason =>
      exact ⟨trivial, fun _ => ⟨trivial, fun _ => ⟨trivial, fun _ => log_allowed hs ..⟩⟩⟩

theorem recordFallbackError_allowed (hs : subject.Concerns v) (failure : FallbackError) :
    (recordFallbackError subject failure).Performs v.Allows := by
  cases failure <;> exact (recordFailedRequest_allowed hs ..).bind fun _ => trivial

theorem recordSucceededRequest_allowed (hs : subject.Concerns v) (provider : String)
    (usage : TokenUsage) (cost : CostEstimate) (latencyMs : UInt64)
    (attempts : List ProviderAttempt) :
    (recordSucceededRequest subject v.key provider usage cost latencyMs attempts).Performs
      v.Allows :=
  ⟨trivial, fun _ => (log_allowed hs ..).bind fun _ => ⟨rfl, fun _ => trivial⟩⟩

theorem responseError_allowed (requestId : Uuid) (failure : FallbackError) :
    (responseError requestId failure).Performs v.Allows := by
  cases failure with
  | noProviderAvailable => trivial
  | admissionRejected rejection => exact ⟨trivial, fun _ => trivial⟩
  | providerFailed error attempts => trivial

/-! ## The cache -/

theorem lookupCache_allowed (hrouted : v.routed = some request) :
    (lookupCache v.state v.key request).Performs v.Allows := by
  unfold lookupCache
  split
  · exact ⟨trivial, fun _ => trivial⟩
  · rename_i henabled
    split
    · rename_i hcache
      have hkey : v.key.cacheEnabled = true := by simpa [hcache] using henabled
      split
      · rename_i cacheKey hdigest
        refine ⟨⟨hcache, hkey, request, hrouted, hdigest⟩, fun response => ?_⟩
        cases response <;> exact ⟨trivial, fun _ => trivial⟩
      · exact ⟨trivial, fun _ => trivial⟩
    · trivial

theorem storeInCache_allowed (hrouted : v.routed = some request)
    (response : ChatCompletionResponse) :
    (storeInCache v.state v.key request response).Performs v.Allows := by
  unfold storeInCache
  split
  · rename_i hcache
    split
    · rename_i cacheKey hdigest
      exact ⟨⟨hcache.2, hcache.1, request, hrouted, hdigest⟩, fun _ => trivial⟩
    · trivial
  · trivial

/-! ## Providers -/

section Providers

variable (hrouted : v.routed = some request)

include hrouted

/-- Both loops perform the steps of the search alike, but for their calls. -/
theorem implement_allowed {α : Type} {policy : RoutingPolicy}
    {call : Site → ProviderEntry → Gateway (Outcome α × UInt64)} {wonEnd : String → Gateway Unit}
    {handOver : GuardId → Gateway Unit} (hcall : ∀ site entry, (call site entry).Performs v.Allows)
    (hwon : ∀ provider, (wonEnd provider).Performs v.Allows)
    (hover : ∀ guard, (handOver guard).Performs v.Allows) (o : SearchOp) :
    (implement ⟨v.state.fallback, request, policy⟩ call wonEnd handOver o).Performs
      v.Allows := by
  have hsome : v.routed.isSome = true := by rw [hrouted]; rfl
  cases o with
  | allow index provider =>
      refine ⟨hsome, fun allowed => ?_⟩
      cases allowed with
      | true => trivial
      | false => exact ⟨trivial, fun _ => trivial⟩
  | reserve index provider =>
      refine ⟨hsome, fun reserved => ?_⟩
      cases reserved with
      | error rejected => trivial
      | ok guard =>
          exact (recordFallback_performs (fun _ _ => trivial) ..).bind fun _ => trivial
  | call site entry => exact hcall site entry
  | won index provider =>
      simp only [implement, bind_eq_bind, perform_bind]
      refine ⟨hsome, fun _ => ⟨trivial, fun _ => Performs.bind ?_ fun _ => hwon provider⟩⟩
      unfold recordPrefixAffinitySelection
      split
      · split
        · rename_i fingerprint hprint
          exact ⟨⟨request, hrouted, hprint⟩, fun _ => trivial⟩
        · trivial
      · trivial
  | backoff site provider => exact ⟨hsome, fun _ => ⟨trivial, fun _ => trivial⟩⟩
  | lost index provider => exact ⟨hsome, fun _ => ⟨trivial, fun _ => trivial⟩⟩
  | quit provider => exact ⟨trivial, fun _ => trivial⟩
  | handOver guard => exact hover guard
  | release guard => exact ⟨hsome, fun _ => trivial⟩

theorem chatImpl_allowed {policy : RoutingPolicy} (o : SearchOp) :
    (chatImpl ⟨v.state.fallback, request, policy⟩ o).Performs v.Allows := by
  have hsome : v.routed.isSome = true := by rw [hrouted]; rfl
  apply implement_allowed hrouted
  · intro site entry
    refine ⟨trivial, fun _ => ⟨⟨request, entry.model, hrouted, rfl⟩, fun result => ?_⟩⟩
    exact ⟨trivial, fun _ => by cases result <;> trivial⟩
  · exact fun provider => ⟨trivial, fun _ => trivial⟩
  · exact fun guard => ⟨hsome, fun _ => trivial⟩

theorem streamImpl_allowed {policy : RoutingPolicy} (o : SearchOp) :
    (streamImpl ⟨v.state.fallback, request, policy⟩ o).Performs v.Allows := by
  have hsome : v.routed.isSome = true := by rw [hrouted]; rfl
  apply implement_allowed hrouted
  · intro site entry
    refine ⟨trivial, fun _ => ⟨⟨request, entry.model, hrouted, rfl⟩, fun result => ?_⟩⟩
    cases result with
    | error error => exact ⟨trivial, fun _ => trivial⟩
    | ok opened =>
        obtain ⟨context, stream⟩ := opened
        refine ⟨hsome, fun _ => ⟨trivial, fun latencyMs => ?_⟩⟩
        simp only
        rcases stream.next with ⟨_ | _ | _, rest⟩
        · trivial
        · trivial
        · exact ⟨trivial, fun _ => trivial⟩
  · exact fun provider => trivial
  · exact fun guard => trivial

theorem completeChat_allowed : (completeChat v.state.fallback request).Performs v.Allows := by
  rw [completeChat_eq]
  refine ⟨trivial, fun _ => ⟨hrouted, fun selection => ⟨trivial, fun _ => ?_⟩⟩⟩
  exact (Performs.interp (chatImpl_allowed hrouted) _).bind fun _ => trivial

theorem completeChatStream_allowed :
    (completeChatStream v.state.fallback request).Performs v.Allows := by
  rw [completeChatStream_eq]
  refine ⟨trivial, fun _ => ⟨hrouted, fun selection => ⟨trivial, fun _ => ?_⟩⟩⟩
  exact (Performs.interp (streamImpl_allowed hrouted) _).bind fun _ => trivial

end Providers

/-! ## Event streams -/

section Loop

variable {σ : Type} {provider : String} {turn : σ → Poll → Gateway (Turn σ)}
  {ended : σ → Gateway (σ × StreamEnd)} (hsome : v.routed.isSome = true)
  (hturn : ∀ x poll, (turn x poll).Performs v.Allows)
  (hended : ∀ x, (ended x).Performs v.Allows)

include hsome hturn hended

theorem streamLoop_allowed (upstream : ProviderStream) (x : σ) :
    (streamLoop provider turn ended upstream x).Performs v.Allows := by
  induction upstream generalizing x with
  | nil => exact ⟨hsome, fun _ => hended x⟩
  | cons poll rest ih =>
      rw [streamLoop]
      simp only [bind_eq_bind, perform_bind, pure_eq_ret]
      refine ⟨hsome, fun _ => (hturn x poll).bind ?_⟩
      rintro (x' | ⟨x', finish⟩)
      · exact ih x'
      · trivial

theorem streamEvents_allowed (first : ProviderStreamEvent) (upstream : ProviderStream) (x : σ) :
    (streamEvents provider turn ended first upstream x).Performs v.Allows := by
  refine (hturn x _).bind ?_
  rintro (x' | ⟨x', finish⟩)
  · exact streamLoop_allowed hsome hturn hended upstream x'
  · trivial

end Loop

theorem owns_responseErrorEvent (error : AppError) : v.Owns (responseErrorEvent error) := trivial

namespace StreamJob

/-- The event stream is that of the request. -/
structure Concerns (job : StreamJob) (v : Service) : Prop where
  subject : job.subject.Concerns v
  key : job.key = v.key
  routed : v.routed.isSome = true

theorem breakOff_allowed (job : StreamJob) {event : AppError → SseEvent}
    (hevent : ∀ error, v.Owns (event error)) (error : ProviderError) (outcome : StreamOutcome) :
    (job.breakOff event error outcome).Performs v.Allows :=
  ⟨hevent _, fun _ => ⟨trivial, fun _ => trivial⟩⟩

theorem giveUp_allowed (job : StreamJob) {event : AppError → SseEvent}
    (hevent : ∀ error, v.Owns (event error)) (outcome : StreamOutcome) :
    (job.giveUp event outcome).Performs v.Allows :=
  ⟨hevent _, fun _ => trivial⟩

variable {job : StreamJob} (hjob : job.Concerns v)

include hjob

theorem owns_chatErrorEvent (error : AppError) : v.Owns (job.chatErrorEvent error) :=
  hjob.subject.requestId

theorem chatTurn_allowed (x : Unit) (poll : Poll) : (job.chatTurn x poll).Performs v.Allows := by
  match poll with
  | .item (.ok (.chunk chunk)) =>
      simp only [chatTurn]
      split
      · exact ⟨congrArg (openaiId "chatcmpl") hjob.subject.requestId, fun _ => trivial⟩
      · exact (job.giveUp_allowed (owns_chatErrorEvent hjob) _).bind fun _ => trivial
  | .item (.ok (.completed usage)) => exact ⟨trivial, fun _ => trivial⟩
  | .item (.error error) =>
      exact (job.breakOff_allowed (owns_chatErrorEvent hjob) ..).bind fun _ => trivial
  | .idle => exact (job.breakOff_allowed (owns_chatErrorEvent hjob) ..).bind fun _ => trivial

theorem responseChoices_allowed (choices : List ChatChunkChoice) (text : String) :
    (job.responseChoices choices text).Performs v.Allows := by
  induction choices generalizing text with
  | nil => trivial
  | cons choice rest ih =>
      rw [responseChoices]
      cases choice.delta.content with
      | none => exact ih text
      | some delta =>
          simp only
          split
          · exact (job.giveUp_allowed owns_responseErrorEvent _).bind fun _ => trivial
          · exact ⟨congrArg (openaiId "msg") hjob.subject.requestId, fun _ => ih (text ++ delta)⟩

theorem responseTurn_allowed (text : String) (poll : Poll) :
    (job.responseTurn text poll).Performs v.Allows := by
  match poll with
  | .item (.ok (.chunk chunk)) => exact responseChoices_allowed hjob chunk.choices text
  | .item (.ok (.completed usage)) => trivial
  | .item (.error error) =>
      exact (job.breakOff_allowed owns_responseErrorEvent ..).bind fun _ => trivial
  | .idle => exact (job.breakOff_allowed owns_responseErrorEvent ..).bind fun _ => trivial

theorem recordFailedStream_allowed (finish : StreamEnd) (latencyMs : UInt64) :
    (job.recordFailedStream finish latencyMs).Performs v.Allows :=
  ⟨trivial, fun _ => ⟨trivial, fun _ => ⟨trivial, fun _ => log_allowed hjob.subject ..⟩⟩⟩

theorem recordSucceededStream_allowed (usage : TokenUsage) (attempts : List ProviderAttempt)
    (latencyMs : UInt64) :
    (job.recordSucceededStream usage attempts latencyMs).Performs v.Allows := by
  refine ⟨trivial, fun _ => ⟨trivial, fun _ => ?_⟩⟩
  rw [hjob.key]
  exact recordSucceededRequest_allowed hjob.subject ..

theorem dropGuards_allowed : job.dropGuards.Performs v.Allows :=
  ⟨hjob.routed, fun _ => ⟨trivial, fun _ => ⟨hjob.routed, fun _ => ⟨trivial, fun _ => trivial⟩⟩⟩⟩

theorem chatEventStream_allowed : job.chatEventStream.Performs v.Allows := by
  refine Performs.bind
    (streamEvents_allowed hjob.routed (chatTurn_allowed hjob) (fun _ => ?_) ..) ?_
  · exact (job.giveUp_allowed (owns_chatErrorEvent hjob) _).bind fun _ => trivial
  · rintro ⟨_, finish⟩
    refine Performs.bind ⟨trivial, fun latencyMs => ?_⟩ fun _ => dropGuards_allowed hjob
    simp only
    split
    · exact recordSucceededStream_allowed hjob ..
    · exact recordFailedStream_allowed hjob ..

theorem responseEventStream_allowed : job.responseEventStream.Performs v.Allows := by
  refine Performs.bind
    (streamEvents_allowed hjob.routed (responseTurn_allowed hjob) (fun _ => ?_) ..) ?_
  · exact (job.giveUp_allowed owns_responseErrorEvent _).bind fun _ => trivial
  · rintro ⟨text, finish⟩
    refine Performs.bind ⟨trivial, fun latencyMs => ?_⟩ fun _ => dropGuards_allowed hjob
    simp only
    split
    · refine (recordSucceededStream_allowed hjob ..).bind fun _ => ⟨?_, fun _ => ?_⟩
      · exact congrArg (openaiId "resp") hjob.subject.requestId
      · exact ⟨trivial, fun _ => trivial⟩
    · exact recordFailedStream_allowed hjob ..

end StreamJob

/-! ## Handlers -/

/-- The handler does what is allowed, and so does the event stream it may return. -/
abbrev Confined (v : Service) (handler : Gateway (Except AppError Response)) : Prop :=
  handler.Ensures v.Allows fun answer =>
    ∀ eventStream, answer = .ok (.sse eventStream) → eventStream.Performs v.Allows

theorem serve_allowed {handler : Gateway (Except AppError Response)} (h : Confined v handler) :
    (serve handler).Performs v.Allows := by
  have hserve : (serve handler).Ensures v.Allows fun _ => True := by
    refine Ensures.bind h ?_
    rintro (error | response | response | eventStream) hstream
    · exact trivial
    · exact trivial
    · exact trivial
    · exact (hstream eventStream rfl).ensures
  exact hserve.performs

/-- A handler that ends with an answer that is not streamed. -/
theorem confined_ret {answer : Except AppError Response}
    (h : ∀ eventStream, answer ≠ .ok (.sse eventStream)) : Confined v (.ret answer) :=
  fun eventStream heq => absurd heq (h eventStream)

theorem confined_error (error : AppError) : Confined v (.ret (.error error)) :=
  confined_ret fun _ heq => by cases heq

section Answers

variable (hrouted : v.routed = some request)

include hrouted

theorem answerChat_confined (hmessages : v.messages = some request.messages)
    (hroute : v.route = chatCompletionsRoute) :
    (answerChat v.state v.key request v.requestId).Ensures v.Allows fun answer =>
      ∀ eventStream, answer ≠ .ok (.sse eventStream) := by
  have hsubject : Subject.Concerns
      ⟨v.state, chatCompletionsRoute, v.requestId, some request⟩ v :=
    ⟨rfl, hroute.symm, rfl, hmessages.symm⟩
  refine (lookupCache_allowed hrouted).bind_ensures ?_
  rintro (_ | response)
  · refine (completeChat_allowed hrouted).bind_ensures ?_
    rintro (failure | success)
    · exact (recordFallbackError_allowed hsubject failure).bind_ensures
        fun error _ heq => by cases heq
    · refine ⟨trivial, fun latencyMs => ?_⟩
      refine (recordSucceededRequest_allowed hsubject ..).bind_ensures fun _ => ?_
      exact (storeInCache_allowed hrouted _).bind_ensures fun _ _ heq => by cases heq
  · exact fun _ heq => by cases heq

theorem answerResponse_confined :
    (answerResponse v.state v.key request v.requestId).Ensures v.Allows fun answer =>
      ∀ eventStream, answer ≠ .ok (.sse eventStream) := by
  refine (lookupCache_allowed hrouted).bind_ensures ?_
  rintro (_ | cached)
  · refine (completeChat_allowed hrouted).bind_ensures ?_
    rintro (failure | success)
    · exact (responseError_allowed _ failure).bind_ensures fun error _ heq => by cases heq
    · refine ⟨rfl, fun _ => ?_⟩
      exact (storeInCache_allowed hrouted _).bind_ensures fun _ _ heq => by cases heq
  · exact fun _ heq => by cases heq

/-- Both routes stream alike: `eventStream` is the event stream of the route. -/
theorem stream_confined (hs : subject.Concerns v) {eventStream : StreamJob → Gateway Unit}
    (hstream : ∀ job : StreamJob, job.Concerns v → (eventStream job).Performs v.Allows)
    (g : GuardId) :
    Confined v ((completeChatStream v.state.fallback request).bind fun
      | .ok success => .ret (.ok (.sse (eventStream ⟨subject, v.key, success, g⟩)))
      | .error failure => (recordFallbackError subject failure).bind fun error =>
          (ask (.dropAdmissionGuard g)).bind fun _ =>
            (metrics .endRequest).bind fun _ => .ret (.error error)) := by
  have hsome : v.routed.isSome = true := by rw [hrouted]; rfl
  refine (completeChatStream_allowed hrouted).bind_ensures ?_
  rintro (failure | success)
  · refine (recordFallbackError_allowed hs failure).bind_ensures fun error => ?_
    exact ⟨hsome, fun _ => ⟨trivial, fun _ => confined_error error⟩⟩
  · intro body heq
    cases heq
    exact hstream _ ⟨hs, rfl, hsome⟩

theorem routeChat_confined (hmessages : v.messages = some request.messages)
    (hroute : v.route = chatCompletionsRoute) :
    Confined v (routeChat v.state v.key request v.requestId) := by
  have hsome : v.routed.isSome = true := by rw [hrouted]; rfl
  have hsubject : Subject.Concerns
      ⟨v.state, chatCompletionsRoute, v.requestId, some request⟩ v :=
    ⟨rfl, hroute.symm, rfl, hmessages.symm⟩
  unfold routeChat
  simp only [bind_eq_bind, perform_bind]
  refine ⟨⟨request, hrouted, rfl⟩, ?_⟩
  rintro (rejection | g)
  · exact (recordFailedRequest_allowed hsubject ..).bind_ensures
      fun _ => ⟨trivial, fun _ => confined_error _⟩
  · simp only
    split
    · exact stream_confined hrouted hsubject (fun _ => StreamJob.chatEventStream_allowed) g
    · refine (answerChat_confined hrouted hmessages hroute).bind fun answer hanswer => ?_
      exact ⟨hsome, fun _ => ⟨trivial, fun _ => confined_ret hanswer⟩⟩

theorem routeResponse_confined (hmessages : v.messages = some request.messages)
    (hroute : v.route = responsesRoute) (stream : Bool) :
    Confined v (routeResponse v.state v.key request v.requestId stream) := by
  have hsome : v.routed.isSome = true := by rw [hrouted]; rfl
  have hsubject : Subject.Concerns ⟨v.state, responsesRoute, v.requestId, some request⟩ v :=
    ⟨rfl, hroute.symm, rfl, hmessages.symm⟩
  unfold routeResponse
  simp only [bind_eq_bind, perform_bind]
  refine ⟨⟨request, hrouted, rfl⟩, ?_⟩
  rintro (rejection | g)
  · exact ⟨trivial, fun _ => confined_error _⟩
  · cases stream with
    | true =>
        refine ⟨trivial, fun _ => ?_⟩
        exact stream_confined hrouted hsubject (fun _ => StreamJob.responseEventStream_allowed) g
    | false =>
        refine (answerResponse_confined hrouted).bind fun answer hanswer => ?_
        exact ⟨hsome, fun _ => confined_ret hanswer⟩

end Answers

end Confinement

def Service.chat (state : AppState) (key : AuthenticatedKey) (requestId : Uuid)
    (body : Option ChatCompletionRequest) : Service where
  state := state
  key := key
  route := chatCompletionsRoute
  requestId := requestId
  messages := body.map (·.messages)
  routed := routedChat state body

def Service.responses (state : AppState) (key : AuthenticatedKey) (requestId : Uuid)
    (request : ResponseRequest) : Service where
  state := state
  key := key
  route := responsesRoute
  requestId := requestId
  messages := some request.intoChatRequest.messages
  routed := routedResponse state request

theorem chatCompletions_confined (state : AppState) (key : AuthenticatedKey) (requestId : Uuid)
    (body : Option ChatCompletionRequest) :
    Confined (.chat state key requestId body) (chatCompletions state key requestId body) := by
  refine chatCompletions_cases (motive := Confined _) (fun _ h => ⟨trivial, fun _ => h⟩) ?_ ?_
  · intro request rejected error hmessages
    exact (recordFailedRequest_allowed ⟨rfl, rfl, rfl, hmessages⟩ ..).bind_ensures
      fun _ => ⟨trivial, fun _ => confined_error error⟩
  · exact fun request hrouted hmessages => routeChat_confined hrouted hmessages rfl

theorem responses_confined (state : AppState) (key : AuthenticatedKey) (requestId : Uuid)
    (request : ResponseRequest) :
    Confined (.responses state key requestId request)
      (responses state key requestId request) :=
  responses_cases (motive := Confined _) confined_error
    (fun _ error => ⟨trivial, fun _ => confined_error error⟩)
    fun _ hrouted hmessages _ => routeResponse_confined hrouted hmessages rfl _

/-- A request to the chat route, whatever it holds, and its event stream if it has one, do only
what concerns that request.  So do a request to the Responses route and its event stream. -/
theorem requests_confined (state : AppState) (key : AuthenticatedKey) (requestId : Uuid) :
    (∀ body, (serve (chatCompletions state key requestId body)).Performs
      (Service.chat state key requestId body).Allows) ∧
    ∀ request, (serve (responses state key requestId request)).Performs
      (Service.responses state key requestId request).Allows :=
  ⟨fun body => serve_allowed (chatCompletions_confined state key requestId body),
    fun request => serve_allowed (responses_confined state key requestId request)⟩

end RustyGate
