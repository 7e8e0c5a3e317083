/-
The response cache between requests.

Any number of requests to the two routes run side by side over one cache.  A backend may miss
and may lose what it has at any time, but what it finds under a key is what was stored there
last, and that has not expired (`SqliteResponseCache.Shows.get_eq_lookup` says so of SQLite).

The world remembers what the providers have answered and to what.  A phase remembers the model
that a request asks for and the last answer to it, and has no move for storing anything else
than that answer under the key of that request.  So whatever the order of the steps, what is
in the cache has been answered by a provider to a request with that key.
-/
import RustyGate.Cache.KeyText
import RustyGate.Collections.Log
import RustyGate.Effect.Pool
import RustyGate.Routes.Confinement
import RustyGate.Routing.FallbackRuns

namespace RustyGate

open Effect Effect.Program Gateway

/-! ## Phases -/

/-- The model that is asked for, and what was sent to a provider and answered. -/
structure Sharing where
  model : Option String := none
  answer : Option (ChatCompletionRequest × ChatCompletionResponse) := none

variable {request : ChatCompletionRequest} {response : ChatCompletionResponse} {s : Sharing}
  {key : String} {v : Service}

namespace Sharing

/-- What was answered is `response`, to a request with the key. -/
def Stores (digest : CanonicalChatRequest → Option String) (s : Sharing) (key : String)
    (response : ChatCompletionResponse) : Bool :=
  s.answer.any fun (sent, answer) =>
    answer = response && cacheKeyForRequest digest { sent with model := s.model } = some key

def watch (digest : CanonicalChatRequest → Option String) (s : Sharing) :
    (o : Op) → Ans o → Option Sharing
  | .candidateProviders request, _ => some { model := request.model }
  | .chatCompletion _ _ sent, .ok response => some { s with answer := some (sent, response) }
  | .cachePut key response, _ => if s.Stores digest key response then some s else none
  | _, _ => some s

variable {digest : CanonicalChatRequest → Option String}

/-- The answer is one to `request`. -/
def Answers (request : ChatCompletionRequest) (response : ChatCompletionResponse)
    (s : Sharing) : Prop :=
  s.model = request.model ∧ ∃ model, s.answer = some (requestForProvider request model, response)

theorem Answers.stores (h : s.Answers request response)
    (hkey : cacheKeyForRequest digest request = some key) :
    s.Stores digest key response = true := by
  obtain ⟨hmodel, model, hanswer⟩ := h
  have hrequest : { requestForProvider request model with model := s.model } = request := by
    rw [hmodel]
    rfl
  simp [Stores, hanswer, hrequest, hkey]

theorem exists_of_stores (h : s.Stores digest key response = true) :
    ∃ sent, s.answer = some (sent, response) ∧
      cacheKeyForRequest digest { sent with model := s.model } = some key := by
  unfold Stores at h
  cases hanswer : s.answer with
  | none =>
      rw [hanswer] at h
      cases h
  | some a =>
      obtain ⟨sent, answer⟩ := a
      rw [hanswer] at h
      simp only [Option.any_some, Bool.and_eq_true, decide_eq_true_eq] at h
      exact ⟨sent, by rw [h.1], h.2⟩

/-- The phase has nothing to do with the operation. -/
def Ignores (o : Op) : Prop :=
  ∀ (digest : CanonicalChatRequest → Option String) (s : Sharing) (a : Ans o),
    s.watch digest o a = some s

theorem follows_ignored {α : Type} {p : Gateway α} (hp : p.Performs Ignores) (s : Sharing) :
    Follows (watch digest) (fun _ s' => s' = s) s p :=
  hp.follows (I := fun s' => s' = s) (fun s' _ hs' ho a => ⟨s', ho digest s' a, hs'⟩) rfl

/-- What a request may do that is not routed. -/
theorem ignores_of_unrouted (hrouted : v.routed = none) {o : Op} (ho : v.Allows o) :
    Ignores o := by
  intro digest s a
  cases o with
  | candidateProviders request =>
      have ho : v.routed = some request := ho
      rw [hrouted] at ho
      cases ho
  | chatCompletion site provider sent =>
      obtain ⟨request, model, hrequest, -⟩ := ho
      rw [hrouted] at hrequest
      cases hrequest
  | cachePut key response =>
      obtain ⟨-, -, request, hrequest, -⟩ := ho
      rw [hrouted] at hrequest
      cases hrequest
  | _ => rfl

/-- A streamed request has no key, so that it stores nothing. -/
theorem moves_of_streamed (hrouted : v.routed = some request)
    (hstream : request.streamEnabled = true) (s : Sharing) (o : Op) (ho : v.Allows o) (a : Ans o) :
    ∃ s', s.watch digest o a = some s' ∧ True := by
  cases o with
  | chatCompletion site provider sent => cases a <;> exact ⟨_, rfl, trivial⟩
  | cachePut key response =>
      obtain ⟨-, -, request', hrequest, hkey⟩ := ho
      obtain rfl : request = request' := Option.some.inj (hrouted.symm.trans hrequest)
      rw [cacheKeyForRequest, if_pos (by rw [hstream]; rfl)] at hkey
      cases hkey
  | _ => exact ⟨_, rfl, trivial⟩

end Sharing

/-! ## The fallback loop -/

section Fallback

variable {digest : CanonicalChatRequest → Option String} (c : FallbackCall)

/-- How the retry loop of a candidate leaves the phase. -/
def RetryExit.Shares (request : ChatCompletionRequest) (exit : RetryExit FallbackSuccess)
    (s : Sharing) : Prop :=
  s.model = request.model ∧
    ∀ success, exit = .returned (.ok success) → s.Answers request success.response

theorem chatRetries_shares (entry : ProviderEntry) (index left retry : Nat) (log : AttemptLog)
    (hs : s.model = c.request.model) :
    Follows (Sharing.watch digest) (RetryExit.Shares c.request) s
      (chatRetries c entry index left retry log) := by
  rw [chatRetries]
  simp only [bind_eq_bind, perform_bind, pure_eq_ret]
  refine fun _ => ⟨s, rfl, fun result => ?_⟩
  cases result with
  | ok response =>
      have hanswers : Sharing.Answers c.request response
          { s with answer := some (requestForProvider c.request entry.model, response) } :=
        ⟨hs, entry.model, rfl⟩
      refine ⟨_, rfl, fun latencyMs => ⟨_, rfl, fun _ => ⟨_, rfl, fun _ => ⟨_, rfl, ?_⟩⟩⟩⟩
      refine Follows.bind (Sharing.follows_ignored
        (recordPrefixAffinitySelection_performs (fun _ _ _ _ _ => rfl) ..) _) ?_
      rintro _ s' rfl
      refine fun _ => ⟨_, rfl, hs, fun success heq => ?_⟩
      cases heq
      exact hanswers
  | error error =>
      refine ⟨s, rfl, fun latencyMs => ⟨s, rfl, ?_⟩⟩
      simp only
      cases fallbackDecision error with
      | stop => exact fun _ => ⟨s, rfl, hs, fun success heq => by cases heq⟩
      | tryNextProvider =>
          cases left with
          | zero => exact fun _ => ⟨s, rfl, fun _ => ⟨s, rfl, hs, fun success heq => by cases heq⟩⟩
          | succ left =>
              refine fun _ => ⟨s, rfl, fun _ => ⟨s, rfl, ?_⟩⟩
              exact chatRetries_shares entry index left (retry + 1) _ hs

theorem chatCandidates_shares (candidates : List ProviderEntry) (index : Nat) (log : AttemptLog)
    (rejection : Option AdmissionRejection) (hs : s.model = c.request.model) :
    Follows (Sharing.watch digest)
      (fun result s' => ∀ success, result = .ok success → s'.Answers c.request success.response) s
      (chatCandidates c candidates index log rejection) := by
  induction candidates generalizing index log rejection s with
  | nil => cases rejection <;> exact fun success heq => by cases heq
  | cons entry rest ih =>
      rw [chatCandidates]
      simp only [bind_eq_bind, perform_bind, pure_eq_ret]
      refine fun allowed => ⟨s, rfl, ?_⟩
      cases allowed with
      | false => exact fun _ => ⟨s, rfl, ih _ _ _ hs⟩
      | true =>
          refine fun reserved => ⟨s, rfl, ?_⟩
          cases reserved with
          | error rejected => exact ih _ _ _ hs
          | ok guard =>
              refine Follows.bind (Sharing.follows_ignored
                (recordFallback_performs (fun _ _ _ _ _ => rfl) ..) s) ?_
              rintro _ _ rfl
              refine Follows.bind (chatRetries_shares c entry index _ 0 log hs) ?_
              rintro (result | ⟨_ | error, log⟩) s' hs'
              · exact fun _ => ⟨s', rfl, fun success heq => hs'.2 success (by rw [heq])⟩
              · exact fun _ => ⟨s', rfl, ih _ _ _ hs'.1⟩
              · refine fun _ => ⟨s', rfl, ?_⟩
                simp only
                split
                · exact fun success heq => by cases heq
                · exact ih _ _ _ hs'.1

theorem completeChat_shares (context : FallbackContext) (request : ChatCompletionRequest)
    (s : Sharing) :
    Follows (Sharing.watch digest)
      (fun result s' => ∀ success, result = .ok success → s'.Answers request success.response) s
      (completeChat context request) := by
  refine fun _ => ⟨s, rfl, fun selection => ?_⟩
  refine ⟨{ model := request.model }, rfl, fun _ => ⟨_, rfl, ?_⟩⟩
  show Follows _ _ _ (if _ then _ else _)
  split
  · exact fun success heq => by cases heq
  · exact chatCandidates_shares ⟨context, request, selection.effectivePolicy⟩ _ 0 {} none rfl

end Fallback

/-! ## Handlers -/

section Handlers

variable {digest : CanonicalChatRequest → Option String} {state : AppState}
  (key : AuthenticatedKey) (requestId : Uuid)

/-- The phase does not matter any more, except to an event stream that is still to be run. -/
abbrev LeavesStreamSharing (digest : CanonicalChatRequest → Option String)
    (answer : Except AppError Response) (_ : Sharing) : Prop :=
  ∀ eventStream, answer = .ok (.sse eventStream) →
    ∀ s, Follows (Sharing.watch digest) (fun _ _ => True) s eventStream

variable {handler : Gateway (Except AppError Response)}

theorem serve_shares (h : Follows (Sharing.watch digest) (LeavesStreamSharing digest) s handler) :
    Follows (Sharing.watch digest) (fun _ _ => True) s (serve handler) := by
  refine Follows.bind h ?_
  rintro (error | response | response | eventStream) s hs
  · exact trivial
  · exact trivial
  · exact trivial
  · exact hs eventStream rfl s

/-- A request that is recorded and not routed any more. -/
def Service.recording (state : AppState) (key : AuthenticatedKey) (route : String)
    (requestId : Uuid) (request : Option ChatCompletionRequest) : Service where
  state := state
  key := key
  route := route
  requestId := requestId
  messages := request.map (·.messages)
  routed := none

/-- A streamed answer of either route. -/
theorem streamed_shares (hrouted : v.routed = some request) (hstream : request.streamEnabled = true)
    (h : Confined v handler) (s : Sharing) :
    Follows (Sharing.watch digest) (LeavesStreamSharing digest) s handler := by
  have hmoves : ∀ (s : Sharing) (o : Op), True → v.Allows o → ∀ a : Ans o,
      ∃ s', s.watch digest o a = some s' ∧ True :=
    fun s o _ => Sharing.moves_of_streamed hrouted hstream s o
  refine (Ensures.follows hmoves h trivial).mono ?_
  intro answer _ hanswer eventStream heq s'
  exact (hanswer.1 eventStream heq).follows hmoves trivial

variable (hdigest : state.cacheDigest = digest)

include hdigest

theorem storeInCache_shares (hs : s.Answers request response) :
    Follows (Sharing.watch digest) (fun _ _ => True) s
      (storeInCache state key request response) := by
  unfold storeInCache
  split
  · split
    · rename_i cacheKey hkey
      rw [hdigest] at hkey
      exact fun _ => ⟨s, if_pos (hs.stores hkey), trivial⟩
    · trivial
  · trivial

theorem answerChat_shares (request : ChatCompletionRequest) (s : Sharing) :
    Follows (Sharing.watch digest) (fun answer _ => ∀ eventStream, answer ≠ .ok (.sse eventStream))
      s (answerChat state key request requestId) := by
  have hconcerns : Subject.Concerns ⟨state, chatCompletionsRoute, requestId, some request⟩
      (.recording state key chatCompletionsRoute requestId (some request)) :=
    ⟨rfl, rfl, rfl, rfl⟩
  refine Follows.bind (Sharing.follows_ignored
    (lookupCache_performs (fun _ _ _ _ => rfl) (fun _ _ _ _ => rfl) state key request) s) ?_
  rintro (_ | response) s' rfl
  · refine Follows.bind (completeChat_shares state.fallback request _) ?_
    rintro (failure | success) s' hs'
    · refine Follows.bind (Sharing.follows_ignored
        ((recordFallbackError_allowed hconcerns failure).mono fun _ =>
          Sharing.ignores_of_unrouted rfl) _) ?_
      exact fun error _ _ eventStream heq => by cases heq
    · simp only [bind_eq_bind, perform_bind]
      refine fun latencyMs => ⟨s', rfl, ?_⟩
      refine Follows.bind (Sharing.follows_ignored
        ((recordSucceededRequest_allowed hconcerns ..).mono fun _ =>
          Sharing.ignores_of_unrouted rfl) _) ?_
      rintro _ _ rfl
      refine Follows.bind (storeInCache_shares key hdigest (hs' success rfl)) ?_
      exact fun _ _ _ eventStream heq => by cases heq
  · exact fun eventStream heq => by cases heq

theorem answerResponse_shares (request : ChatCompletionRequest) (s : Sharing) :
    Follows (Sharing.watch digest) (fun answer _ => ∀ eventStream, answer ≠ .ok (.sse eventStream))
      s (answerResponse state key request requestId) := by
  refine Follows.bind (Sharing.follows_ignored
    (lookupCache_performs (fun _ _ _ _ => rfl) (fun _ _ _ _ => rfl) state key request) s) ?_
  rintro (_ | cached) s' rfl
  · refine Follows.bind (completeChat_shares state.fallback request _) ?_
    rintro (failure | success) s' hs'
    · have hunrouted : (Service.recording state key responsesRoute requestId none).routed = none :=
        rfl
      refine Follows.bind (Sharing.follows_ignored ((responseError_allowed requestId failure).mono
        fun _ => Sharing.ignores_of_unrouted hunrouted) _) ?_
      exact fun error _ _ eventStream heq => by cases heq
    · simp only [bind_eq_bind, recordApiKeyUsage, perform_bind]
      refine fun _ => ⟨s', rfl, ?_⟩
      refine Follows.bind (storeInCache_shares key hdigest (hs' success rfl)) ?_
      exact fun _ _ _ eventStream heq => by cases heq
  · exact fun eventStream heq => by cases heq

theorem routeChat_shares (request : ChatCompletionRequest) (s : Sharing) :
    Follows (Sharing.watch digest) (LeavesStreamSharing digest) s
      (routeChat state key request requestId) := by
  have hconcerns : Subject.Concerns ⟨state, chatCompletionsRoute, requestId, some request⟩
      (.recording state key chatCompletionsRoute requestId (some request)) :=
    ⟨rfl, rfl, rfl, rfl⟩
  by_cases hstream : request.streamEnabled = true
  · let v : Service :=
      { Service.recording state key chatCompletionsRoute requestId (some request) with
        routed := some request }
    exact streamed_shares (v := v) rfl hstream (routeChat_confined rfl rfl rfl) s
  · unfold routeChat
    simp only [bind_eq_bind, perform_bind, hstream, if_false, Bool.false_eq_true]
    rintro (rejection | g)
    · refine ⟨s, rfl, Follows.bind (Sharing.follows_ignored
        ((recordFailedRequest_allowed hconcerns ..).mono fun _ =>
          Sharing.ignores_of_unrouted rfl) _) ?_⟩
      rintro _ s' rfl
      exact fun _ => ⟨_, rfl, fun eventStream heq => by cases heq⟩
    · refine ⟨s, rfl, Follows.bind (answerChat_shares key requestId hdigest request s) ?_⟩
      intro answer s' hanswer
      exact fun _ => ⟨s', rfl, fun _ => ⟨s', rfl, fun _ heq => absurd heq (hanswer _)⟩⟩

theorem routeResponse_shares (request : ChatCompletionRequest) (s : Sharing) :
    Follows (Sharing.watch digest) (LeavesStreamSharing digest) s
      (routeResponse state key request requestId request.streamEnabled) := by
  by_cases hstream : request.streamEnabled = true
  · let v : Service :=
      { Service.recording state key responsesRoute requestId (some request) with
        routed := some request }
    exact streamed_shares (v := v) rfl hstream (routeResponse_confined rfl rfl rfl _) s
  · unfold routeResponse
    simp only [bind_eq_bind, perform_bind, hstream, if_false, Bool.false_eq_true]
    rintro (rejection | g)
    · exact ⟨s, rfl, fun _ => ⟨s, rfl, fun eventStream heq => by cases heq⟩⟩
    · refine ⟨s, rfl, Follows.bind (answerResponse_shares key requestId hdigest request s) ?_⟩
      intro answer s' hanswer
      exact fun _ => ⟨s', rfl, fun _ heq => absurd heq (hanswer _)⟩

theorem chatCompletions_shares (body : Option ChatCompletionRequest) (s : Sharing) :
    Follows (Sharing.watch digest) (LeavesStreamSharing digest) s
      (chatCompletions state key requestId body) := by
  refine chatCompletions_cases
    (motive := Follows (Sharing.watch digest) (LeavesStreamSharing digest) s)
    (fun _ h _ => ⟨s, rfl, h⟩) ?_
    fun request _ _ => routeChat_shares key requestId hdigest request s
  intro request rejected error _
  have hconcerns : Subject.Concerns ⟨state, chatCompletionsRoute, requestId, request⟩
      (.recording state key chatCompletionsRoute requestId request) :=
    ⟨rfl, rfl, rfl, rfl⟩
  refine Follows.bind (Sharing.follows_ignored ((recordFailedRequest_allowed hconcerns ..).mono
    fun _ => Sharing.ignores_of_unrouted rfl) s) ?_
  rintro _ s' rfl
  exact fun _ => ⟨_, rfl, fun eventStream heq => by cases heq⟩

theorem responses_shares (request : ResponseRequest) (s : Sharing) :
    Follows (Sharing.watch digest) (LeavesStreamSharing digest) s
      (responses state key requestId request) := by
  refine responses_cases (motive := Follows (Sharing.watch digest) (LeavesStreamSharing digest) s)
    (fun _ eventStream heq => by cases heq)
    (fun _ _ _ => ⟨s, rfl, fun eventStream heq => by cases heq⟩) ?_
  intro chatRequest _ _ hstream
  rw [← hstream]
  exact routeResponse_shares key requestId hdigest chatRequest s

end Handlers

/-! ## Requests side by side -/

/-- The cache, with the time at which each entry was stored, and what the providers have
answered. -/
structure CacheWorld where
  log : List (Expiring.Entry String (ChatCompletionResponse × Nat)) := []
  answered : List (ChatCompletionRequest × ChatCompletionResponse) := []
  time : Nat := 0

namespace CacheWorld

def note (w : CacheWorld) (sent : ChatCompletionRequest) :
    Except ProviderError ChatCompletionResponse → CacheWorld
  | .ok response => { w with answered := (sent, response) :: w.answered }
  | .error _ => w

/-- A backend may miss, and it may fail to store. -/
def exec (ttl : Nat) (w : CacheWorld) : (o : Op) → Ans o → CacheWorld → Prop
  | .chatCompletion _ _ sent, answer, w' => w' = w.note sent answer
  | .cacheGet key, answer, w' =>
      (answer = none ∨ answer = (Expiring.lookup w.log key w.time).map Prod.fst) ∧ w' = w
  | .cachePut key response, _, w' =>
      w' = w ∨ ∃ expires ≤ w.time + ttl,
        w' = { w with log := ⟨key, (response, w.time), expires⟩ :: w.log }
  | _, _, w' => w' = w

def Ambient (w w' : CacheWorld) : Prop := ∃ time ≥ w.time, w' = { w with time := time }

/-- The answers to a request that runs alone, with a backend that never fails.  `outside`
answers what the world does not. -/
def handle (ttl : Nat) (outside : Answers) : (o : Op) → CacheWorld → Ans o × CacheWorld
  | .chatCompletion site provider sent, w =>
      (outside (.chatCompletion site provider sent),
        w.note sent (outside (.chatCompletion site provider sent)))
  | .cacheGet key, w => ((Expiring.lookup w.log key w.time).map Prod.fst, w)
  | .cachePut key response, w =>
      ((), { w with log := ⟨key, (response, w.time), w.time + ttl⟩ :: w.log })
  | o, w => (outside o, w)

theorem exec_handle (ttl : Nat) (outside : Answers) (o : Op) (w : CacheWorld) :
    w.exec ttl o (handle ttl outside o w).1 (handle ttl outside o w).2 := by
  cases o with
  | cacheGet key => exact ⟨.inr rfl, rfl⟩
  | cachePut key response => exact .inr ⟨_, Nat.le_refl _, rfl⟩
  | _ => exact rfl

end CacheWorld

section Run

variable (sha256 : List UInt8 → List UInt8) (format : Json.NumberFormat)
  (readF32 : String → Option F32) (ttl : Nat)

/-- A request to one of the routes, as it is read from its body. -/
inductive CachedProgram : Gateway Unit → Prop
  | chat {state : AppState} (hdigest : state.cacheDigest = keyDigest sha256)
      (key : AuthenticatedKey) (requestId : Uuid) (body : List UInt8) :
      CachedProgram (serve (chatCompletions state key requestId
        (ChatCompletionRequest.fromBody format readF32 body)))
  | responses {state : AppState} (hdigest : state.cacheDigest = keyDigest sha256)
      (key : AuthenticatedKey) (requestId : Uuid) (request : ResponseRequest) :
      CachedProgram (serve (responses state key requestId request))

/-- Requests over one cache, which may be dropped at any operation. -/
def sharedCache : Setting Ans Sharing CacheWorld where
  exec := fun _ w => w.exec ttl
  awaits := fun _ => true
  leave := fun _ w => w
  cancel := fun _ w => w
  ambient := CacheWorld.Ambient
  watch := Sharing.watch (keyDigest sha256)
  start := {}
  done := fun _ => True
  programs := CachedProgram sha256 format readF32

/-- What providers are sent has been read. -/
def SendsValues : Op → Prop
  | .chatCompletion _ _ sent => sent.HasValues Json.plainNumbers
  | _ => True

variable {sha256 format readF32 ttl}

theorem CachedProgram.follows {p : Gateway Unit} (h : CachedProgram sha256 format readF32 p) :
    Follows (Sharing.watch (keyDigest sha256)) (fun _ _ => True) {} p := by
  cases h with
  | chat hdigest key requestId body =>
      exact serve_shares (chatCompletions_shares key requestId hdigest _ {})
  | responses hdigest key requestId request =>
      exact serve_shares (responses_shares key requestId hdigest request {})

theorem sendsValues_of_allows
    (hrouted : ∀ request, v.routed = some request → request.HasValues Json.plainNumbers) {o : Op}
    (ho : v.Allows o) : SendsValues o := by
  cases o with
  | chatCompletion site provider sent =>
      obtain ⟨request, model, hrequest, rfl⟩ := ho
      exact ⟨(hrouted request hrequest).tools, (hrouted request hrequest).responseFormat⟩
  | _ => trivial

theorem hasValues_routedChat {state : AppState} {body : List UInt8}
    (h : routedChat state (ChatCompletionRequest.fromBody format readF32 body) = some request) :
    request.HasValues Json.plainNumbers := by
  obtain ⟨asked, hread, hrouted⟩ := Option.bind_eq_some_iff.mp h
  simp only [Option.ite_none_right_eq_some, Option.some.injEq] at hrouted
  obtain ⟨-, rfl⟩ := hrouted
  exact ChatCompletionRequest.hasValues_withModel hread _

theorem hasValues_routedResponse {state : AppState} {asked : ResponseRequest}
    (h : routedResponse state asked = some request) :
    request.HasValues Json.plainNumbers := by
  simp only [routedResponse, Option.ite_none_right_eq_some, Option.some.injEq] at h
  obtain ⟨-, rfl⟩ := h
  constructor
  · intro tools htools
    cases htools
  · intro document hdocument
    cases hdocument

theorem CachedProgram.sendsValues {p : Gateway Unit}
    (h : CachedProgram sha256 format readF32 p) : p.Performs SendsValues := by
  cases h with
  | @chat state hdigest key requestId body =>
      exact (serve_allowed (chatCompletions_confined state key requestId _)).mono
        fun _ => sendsValues_of_allows fun _ => hasValues_routedChat
  | @responses state hdigest key requestId request =>
      exact (serve_allowed (responses_confined state key requestId request)).mono
        fun _ => sendsValues_of_allows fun _ => hasValues_routedResponse

/-! ## The invariant -/

/-- The entry is the answer of a provider to a request with its key, stored at a time that has
passed and not to be used for longer than `ttl`. -/
def CacheWorld.Sourced (sha256 : List UInt8 → List UInt8) (ttl : Nat) (w : CacheWorld)
    (e : Expiring.Entry String (ChatCompletionResponse × Nat)) : Prop :=
  ∃ sent model, (sent, e.value.1) ∈ w.answered ∧
    cacheKey sha256 { sent with model := model } = some e.key ∧
    e.value.2 ≤ w.time ∧ e.expires ≤ e.value.2 + ttl

/-- What providers were sent has been read, and every entry is sourced. -/
structure CacheInvariant (sha256 : List UInt8 → List UInt8) (ttl : Nat) (w : CacheWorld) :
    Prop where
  values : ∀ a ∈ w.answered, a.1.HasValues Json.plainNumbers
  sourced : ∀ e ∈ w.log, w.Sourced sha256 ttl e

/-- Answers and time only add to what an entry is sourced from. -/
theorem CacheWorld.Sourced.mono {w : CacheWorld}
    {e : Expiring.Entry String (ChatCompletionResponse × Nat)} (h : w.Sourced sha256 ttl e)
    (w' : CacheWorld) (hanswered : w.answered ⊆ w'.answered) (htime : w.time ≤ w'.time) :
    w'.Sourced sha256 ttl e := by
  obtain ⟨sent, model, hmem, hkey, hstored, hexpires⟩ := h
  exact ⟨sent, model, hanswered hmem, hkey, hstored.trans htime, hexpires⟩

namespace CacheInvariant

variable {w w' : CacheWorld}

/-- A provider answers. -/
theorem answer (h : CacheInvariant sha256 ttl w) {sent : ChatCompletionRequest}
    (hvalues : sent.HasValues Json.plainNumbers) (response : ChatCompletionResponse) :
    CacheInvariant sha256 ttl { w with answered := (sent, response) :: w.answered } where
  values := List.forall_mem_cons.mpr ⟨hvalues, h.values⟩
  sourced := fun e he => (h.sourced e he).mono
    { w with answered := (sent, response) :: w.answered } (List.subset_cons_self _ _)
    (Nat.le_refl _)

/-- What a request has been answered is stored under its key. -/
theorem store (h : CacheInvariant sha256 ttl w) (hs : ∀ a, s.answer = some a → a ∈ w.answered)
    (hstores : s.Stores (keyDigest sha256) key response = true) {expires : Nat}
    (hexpires : expires ≤ w.time + ttl) :
    CacheInvariant sha256 ttl
      { w with log := ⟨key, (response, w.time), expires⟩ :: w.log } where
  values := h.values
  sourced := by
    obtain ⟨sent, hanswer, hkey⟩ := Sharing.exists_of_stores hstores
    have hnew : CacheWorld.Sourced sha256 ttl w ⟨key, (response, w.time), expires⟩ :=
      ⟨sent, s.model, hs _ hanswer, hkey, Nat.le_refl _, hexpires⟩
    exact List.forall_mem_cons.mpr ⟨hnew, h.sourced⟩

theorem tick (h : CacheInvariant sha256 ttl w) {time : Nat} (htime : w.time ≤ time) :
    CacheInvariant sha256 ttl { w with time := time } where
  values := h.values
  sourced := fun e he =>
    (h.sourced e he).mono { w with time := time } (List.Subset.refl _) htime

end CacheInvariant

/-- Answers are not forgotten. -/
theorem CacheWorld.answered_of_exec {w w' : CacheWorld} {o : Op} {a : Ans o}
    (h : w.exec ttl o a w') : w.answered ⊆ w'.answered := by
  cases o with
  | chatCompletion site provider sent =>
      obtain rfl : w' = w.note sent a := h
      cases a with
      | ok response => exact List.subset_cons_self _ _
      | error error => exact List.Subset.refl _
  | cachePut key response =>
      rcases h with rfl | ⟨expires, -, rfl⟩
      · exact List.Subset.refl _
      · exact List.Subset.refl _
  | cacheGet key =>
      obtain rfl : w' = w := h.2
      exact List.Subset.refl _
  | _ =>
      obtain rfl : w' = w := h
      exact List.Subset.refl _

/-- A request has in its phase an answer that it was given. -/
theorem sharedCache_keeps :
    (sharedCache sha256 format readF32 ttl).Keeps SendsValues (CacheInvariant sha256 ttl)
      (fun w _ s => ∀ a, s.answer = some a → a ∈ w.answered) where
  start _ := fun a ha => by cases ha
  act {i w o answer w' s s'} ho hw hs hexec hwatch := by
    -- Only a provider's answer, a store and the start of the routing concern the invariant.
    cases o with
    | candidateProviders request =>
        obtain rfl : w' = w := hexec
        obtain rfl := Option.some.inj hwatch
        exact ⟨hw, fun a ha => by cases ha⟩
    | chatCompletion site provider sent =>
        cases answer with
        | ok response =>
            obtain rfl : w' = { w with answered := (sent, response) :: w.answered } := hexec
            obtain rfl := Option.some.inj hwatch
            refine ⟨hw.answer ho response, fun a ha => ?_⟩
            cases ha
            exact List.mem_cons_self
        | error error =>
            obtain rfl : w' = w := hexec
            obtain rfl := Option.some.inj hwatch
            exact ⟨hw, hs⟩
    | cacheGet key =>
        obtain rfl : w' = w := hexec.2
        obtain rfl := Option.some.inj hwatch
        exact ⟨hw, hs⟩
    | cachePut key response =>
        have hmove : (if s.Stores (keyDigest sha256) key response then some s else none) =
            some s' := hwatch
        simp only [Option.ite_none_right_eq_some, Option.some.injEq] at hmove
        obtain ⟨hstores, rfl⟩ := hmove
        rcases hexec with rfl | ⟨expires, hexpires, rfl⟩
        · exact ⟨hw, hs⟩
        · exact ⟨hw.store hs hstores hexpires, hs⟩
    | _ =>
        obtain rfl : w' = w := hexec
        obtain rfl := Option.some.inj hwatch
        exact ⟨hw, hs⟩
  others _ hexec _ _ ht := fun a ha => CacheWorld.answered_of_exec hexec (ht a ha)
  leave hw := ⟨hw, fun _ => id⟩
  cancel hw := ⟨hw, fun _ => id⟩
  ambient h hw := by
    obtain ⟨time, htime, rfl⟩ := h
    exact ⟨hw.tick htime, id⟩

/-- A gateway that has just started, with nothing in its cache. -/
def emptyCache : Pool Ans Sharing CacheWorld where
  threads := []
  world := {}

theorem CacheInvariant.run {x : Pool Ans Sharing CacheWorld}
    (h : Reaches (sharedCache sha256 format readF32 ttl) (fun _ _ => True) emptyCache x) :
    CacheInvariant sha256 ttl x.world :=
  (h.keeps sharedCache_keeps (fun _ => CachedProgram.follows) (fun _ => CachedProgram.sendsValues)
    (Pool.phased_nil _ _) (fun _ ht => absurd ht List.not_mem_nil)
    ⟨fun _ ha => absurd ha List.not_mem_nil, fun _ he => absurd he List.not_mem_nil⟩
    (Pool.held_nil _ _)).1

end Run

end RustyGate
