/-
The fallback loops under given answers.

An assignment of answers says what the circuits, the admission limits and the
providers answer to each operation.  The loops are interpretations of `search`, so what
`RustyGate.Routing.SearchRuns` says of a search holds of them with the answers read off
the assignment: `admits` for leave to call a candidate, and the verdict on its calls.

Two properties are settled here.  Attempts are reported in full exactly when
`NoAttemptLost` holds: a failure is forgotten when every called candidate failed
retryably and the last candidate is skipped.  And a call is followed by another only
after a retryable failure, except that a stream which ends before its first item is
passed by like one.
-/
import RustyGate.Routing.SearchRuns

namespace RustyGate

open Effect Effect.Program Gateway

/-- The provider call an event is. -/
def callsOf : Event Ans → List Call
  | ⟨.chatCompletion site provider _, .ok _⟩ => [⟨site, provider, none⟩]
  | ⟨.chatCompletion site provider _, .error error⟩ => [⟨site, provider, some error⟩]
  | ⟨.chatCompletionStream site provider _, answer⟩ =>
      [⟨site, provider, (streamOutcome answer).error⟩]
  | _ => []

/-- What can be seen of a loop, in the order it happens. -/
inductive Visible where
  | allow (candidate : Nat) (provider : String) (allowed : Bool)
  | call (call : Call)
  | success (candidate : Nat) (provider : String)
  | failure (candidate : Nat) (provider : String)
  | affinity (fingerprint provider : String)
  deriving DecidableEq

def visibleOf : Event Ans → List Visible
  | ⟨.allowProviderCall candidate provider, allowed⟩ => [.allow candidate provider allowed]
  | ⟨.recordSuccess candidate provider, _⟩ => [.success candidate provider]
  | ⟨.recordFailure candidate provider, _⟩ => [.failure candidate provider]
  | ⟨.recordPrefixAffinity fingerprint provider, _⟩ => [.affinity fingerprint provider]
  | e => (callsOf e).map .call

/-- What is recorded of a served call besides the success. -/
def FallbackCall.affinity (c : FallbackCall) (provider : String) : List Visible :=
  if c.policy = .prefixAffinity ∧ c.fingerprint.isHighConfidence = true then
    c.fingerprint.fingerprint.toList.map fun fingerprint => .affinity fingerprint provider
  else []

/-- The same for a step of the search. -/
def searchVisible {α : Type} (c : FallbackCall) : Event (SearchAns α) → List Visible
  | ⟨.allow index provider, allowed⟩ => [.allow index provider allowed]
  | ⟨.won index provider, _⟩ => .success index provider :: c.affinity provider
  | ⟨.lost index provider, _⟩ => [.failure index provider]
  | e => (searchCalls e).map .call

def Visible.calls : Visible → List Call
  | call c => [c]
  | _ => []

section Calls

variable {σ : Type} (c : FallbackCall) (h : (o : Op) → σ → Ans o × σ)

@[simp] theorem visible_recordFallback (policy : RoutingPolicy) (index : Nat) (s : σ) :
    ((recordFallback policy index).run h s).trace.flatMap visibleOf = [] := by
  unfold recordFallback
  split <;> rfl

@[simp] theorem visible_recordPrefixAffinitySelection (provider : String) (s : σ) :
    ((recordPrefixAffinitySelection c.fingerprint provider c.policy).run h s).trace.flatMap
      visibleOf = c.affinity provider := by
  unfold recordPrefixAffinitySelection FallbackCall.affinity
  split
  · cases c.fingerprint.fingerprint <;> rfl
  · rfl

/-- An implementation of the search shows what the search shows if its `call` does and
its ends show nothing. -/
theorem visible_implement {α : Type}
    {call : Site → ProviderEntry → Gateway (Outcome α × UInt64)}
    {wonEnd : String → Gateway Unit} {handOver : GuardId → Gateway Unit}
    (hcall : ∀ site entry s, ((call site entry).run h s).trace.flatMap visibleOf =
      [.call ⟨site, entry.name, ((call site entry).run h s).value.1.error⟩])
    (hwon : ∀ provider s, ((wonEnd provider).run h s).trace.flatMap visibleOf = [])
    (hover : ∀ guard s, ((handOver guard).run h s).trace.flatMap visibleOf = [])
    (o : SearchOp) (s : σ) :
    ((implement c call wonEnd handOver o).run h s).trace.flatMap visibleOf =
      searchVisible c ⟨o, ((implement c call wonEnd handOver o).run h s).value⟩ := by
  cases o with
  | allow index provider =>
      simp only [implement, bind_eq_bind, perform_bind, run_op, pure_eq_ret]
      generalize h (.allowProviderCall index provider) s = answer
      obtain ⟨allowed, s'⟩ := answer
      cases allowed <;> rfl
  | reserve index provider =>
      simp only [implement, bind_eq_bind, perform_bind, run_op, pure_eq_ret]
      cases (h (.tryAcquireProvider index provider) s).1 with
      | error rejected => rfl
      | ok guard => simp [run_bind, visibleOf, callsOf, searchVisible, searchCalls]
  | call site entry => exact hcall site entry s
  | won index provider =>
      simp [implement, run_bind, visibleOf, callsOf, searchVisible, hwon]
  | backoff site provider => rfl
  | lost index provider => rfl
  | quit provider => rfl
  | handOver guard => exact hover guard s
  | release guard => rfl

theorem visible_chatImpl (o : SearchOp) (s : σ) :
    ((chatImpl c o).run h s).trace.flatMap visibleOf =
      searchVisible c ⟨o, ((chatImpl c o).run h s).value⟩ := by
  refine visible_implement c h (fun site entry s => ?_) (fun _ _ => rfl) (fun _ _ => rfl) o s
  simp only [chatCall, bind_eq_bind, perform_bind, run_op, pure_eq_ret]
  generalize (h (.chatCompletion site entry.name (requestForProvider c.request entry.model))
    (h (.metrics (.beginProviderRequest entry.name c.inFlightUnits)) s).2).1 = result
  cases result <;> rfl

theorem visible_streamImpl (o : SearchOp) (s : σ) :
    ((streamImpl c o).run h s).trace.flatMap visibleOf =
      searchVisible c ⟨o, ((streamImpl c o).run h s).value⟩ := by
  refine visible_implement c h (fun site entry s => ?_) (fun _ _ => rfl) (fun _ _ => rfl) o s
  simp only [streamCall, bind_eq_bind, perform_bind, run_op, pure_eq_ret]
  generalize (h (.chatCompletionStream site entry.name (requestForProvider c.request entry.model))
    (h (.metrics (.beginProviderRequest entry.name c.inFlightUnits)) s).2).1 = result
  cases result with
  | error error => rfl
  | ok opened =>
      obtain ⟨context, stream⟩ := opened
      rcases hnext : stream.next with ⟨_ | _ | _, rest⟩ <;>
        simp [hnext, visibleOf, callsOf, streamOutcome, Outcome.error]

theorem calls_eq_visible (trace : List (Event Ans)) :
    trace.flatMap callsOf = (trace.flatMap visibleOf).flatMap Visible.calls := by
  rw [List.flatMap_assoc]
  congr 1
  funext e
  obtain ⟨o, answer⟩ := e
  cases o with
  | chatCompletion site provider request => cases answer <;> rfl
  | _ => rfl

theorem searchCalls_eq_visible {α : Type} (e : Event (SearchAns α)) :
    searchCalls e = (searchVisible c e).flatMap Visible.calls := by
  obtain ⟨o, answer⟩ := e
  cases o with
  | won index provider =>
      simp only [searchVisible, FallbackCall.affinity]
      split
      · cases c.fingerprint.fingerprint <;> rfl
      · rfl
  | _ => rfl

theorem calls_chatImpl (o : SearchOp) (s : σ) :
    ((chatImpl c o).run h s).trace.flatMap callsOf =
      searchCalls ⟨o, ((chatImpl c o).run h s).value⟩ := by
  rw [calls_eq_visible, visible_chatImpl, ← searchCalls_eq_visible]

theorem calls_streamImpl (o : SearchOp) (s : σ) :
    ((streamImpl c o).run h s).trace.flatMap callsOf =
      searchCalls ⟨o, ((streamImpl c o).run h s).value⟩ := by
  rw [calls_eq_visible, visible_streamImpl, ← searchCalls_eq_visible]

end Calls

/-! ## Given answers -/

abbrev Answers := (o : Op) → Ans o

namespace Answers

variable (answer : Answers)

/-- The candidates with their positions. -/
def candidates (request : ChatCompletionRequest) : List (ProviderEntry × Nat) :=
  (answer (.candidateProviders request)).candidates.zipIdx

/-- The circuit lets the call through and there is a slot for it. -/
def admits (x : ProviderEntry × Nat) : Bool :=
  answer (.allowProviderCall x.2 x.1.name) && (answer (.tryAcquireProvider x.2 x.1.name)).isOk

def chatOutcome (request : ChatCompletionRequest) (entry : ProviderEntry) (site : Site) :
    Outcome ChatCompletionResponse :=
  match answer (.chatCompletion site entry.name (requestForProvider request entry.model)) with
  | .ok response => .served response
  | .error error => .failed error

def streamOutcome (request : ChatCompletionRequest) (entry : ProviderEntry) (site : Site) :
    Outcome Opened :=
  RustyGate.streamOutcome
    (answer (.chatCompletionStream site entry.name (requestForProvider request entry.model)))

/-- How the calls of a candidate end, for the outcomes of one of the two loops. -/
def verdictOf {α : Type} (context : FallbackContext) (outcome : ProviderEntry → Site → Outcome α)
    (x : ProviderEntry × Nat) : Verdict :=
  verdict (outcome x.1) x.2 (context.policyFor x.1.name).retry.maxRetries.toNat 0

def chatVerdict (context : FallbackContext) (request : ChatCompletionRequest) :
    ProviderEntry × Nat → Verdict :=
  verdictOf context (answer.chatOutcome request)

def streamVerdict (context : FallbackContext) (request : ChatCompletionRequest) :
    ProviderEntry × Nat → Verdict :=
  verdictOf context (answer.streamOutcome request)

/-! The answers the implementations give to the search. -/

section Search

variable {α : Type} (c : FallbackCall)

theorem admitted_implement (call : Site → ProviderEntry → Gateway (Outcome α × UInt64))
    (wonEnd : String → Gateway Unit) (handOver : GuardId → Gateway Unit) (x : ProviderEntry × Nat) :
    admitted (fun o => ((implement c call wonEnd handOver o).runWith answer).value) x =
      answer.admits x := by
  simp only [admitted, admits, implement, bind_eq_bind, perform_bind, runWith_op, pure_eq_ret]
  cases answer (.allowProviderCall x.2 x.1.name) with
  | false => rfl
  | true =>
      cases answer (.tryAcquireProvider x.2 x.1.name) with
      | error rejected => rfl
      | ok guard => simp [runWith_bind, Except.isOk, Except.toBool]

theorem answeredOutcome_chat (entry : ProviderEntry) :
    answeredOutcome (fun o => ((chatImpl c o).runWith answer).value) entry =
      answer.chatOutcome c.request entry := by
  funext site
  simp only [answeredOutcome, chatImpl, implement, chatCall, bind_eq_bind, perform_bind,
    runWith_op, pure_eq_ret, chatOutcome]
  cases answer (.chatCompletion site entry.name (requestForProvider c.request entry.model)) <;>
    rfl

theorem answeredOutcome_stream (entry : ProviderEntry) :
    answeredOutcome (fun o => ((streamImpl c o).runWith answer).value) entry =
      answer.streamOutcome c.request entry := by
  funext site
  simp only [answeredOutcome, streamImpl, implement, streamCall, bind_eq_bind, perform_bind,
    runWith_op, pure_eq_ret, streamOutcome]
  generalize answer (.chatCompletionStream site entry.name
    (requestForProvider c.request entry.model)) = result
  cases result with
  | error error => rfl
  | ok opened =>
      obtain ⟨context, stream⟩ := opened
      rcases hnext : stream.next with ⟨_ | _ | _, rest⟩ <;>
        simp [hnext, RustyGate.streamOutcome]

end Search

end Answers

/-! ## The two loops as searches -/

theorem Kept.map_iff {α β : Type} (f : α → β) (calls : List Call)
    (result : Except FallbackError α) : Kept calls (result.map f) ↔ Kept calls result := by
  match result with
  | .ok _ => rfl
  | .error (.providerFailed _ _) => rfl
  | .error .noProviderAvailable => rfl
  | .error (.admissionRejected _) => rfl

section Loops

variable (answer : Answers) (context : FallbackContext) (request : ChatCompletionRequest)

/-- The value and the calls of a run of the gateway. -/
def Answers.outcome {α : Type} (p : Gateway α) : α × List Call :=
  ((p.runWith answer).value, (p.runWith answer).trace.flatMap callsOf)

/-- The call that the routing answer leads to. -/
def Answers.call : FallbackCall :=
  ⟨context, request, (answer (.candidateProviders request)).effectivePolicy⟩

/-- What a search ends with and its calls. -/
def Answers.found {α : Type} (impl : FallbackCall → (o : SearchOp) → Gateway (SearchAns α o)) :
    Except FallbackError (Found α) × List Call :=
  let c := answer.call context request
  summary (fun o => ((impl c o).runWith answer).value)
    (search c.budget (answer (.candidateProviders request)).candidates 0 {} none)

theorem outcome_fallbackLoop {α β : Type}
    {impl : FallbackCall → (o : SearchOp) → Gateway (SearchAns α o)}
    (himpl : ∀ c o, ((impl c o).runWith answer).trace.flatMap callsOf =
      searchCalls ⟨o, ((impl c o).runWith answer).value⟩) (result : FallbackCall → Found α → β) :
    answer.outcome (fallbackLoop context request impl result) =
      ((answer.found context request impl).1.map (result (answer.call context request)),
        (answer.found context request impl).2) := by
  simp only [Answers.outcome, fallbackLoop, recordPrefixFingerprint, bind_eq_bind, perform_bind,
    runWith_op, List.flatMap_cons, callsOf, List.nil_append, runWith_bind, runWith_interp,
    runWith_ret, List.append_nil]
  rw [flatMap_runWith_interp answer (himpl _)]
  rfl

theorem outcome_completeChat :
    answer.outcome (completeChat context request) =
      ((answer.found context request chatImpl).1.map Found.toChat,
        (answer.found context request chatImpl).2) := by
  rw [completeChat_eq]
  exact outcome_fallbackLoop answer context request (fun c o => calls_chatImpl c _ o ()) _

theorem outcome_completeChatStream :
    answer.outcome (completeChatStream context request) =
      ((answer.found context request streamImpl).1.map
          (Found.toStream (answer.call context request)),
        (answer.found context request streamImpl).2) := by
  rw [completeChatStream_eq]
  exact outcome_fallbackLoop answer context request (fun c o => calls_streamImpl c _ o ()) _

theorem admitted_chatImpl (c : FallbackCall) :
    admitted (fun o => ((chatImpl c o).runWith answer).value) = answer.admits :=
  funext fun x => answer.admitted_implement c _ _ _ x

theorem admitted_streamImpl (c : FallbackCall) :
    admitted (fun o => ((streamImpl c o).runWith answer).value) = answer.admits :=
  funext fun x => answer.admitted_implement c _ _ _ x

theorem verdictOf_chatImpl :
    verdictOf (fun o => ((chatImpl (answer.call context request) o).runWith answer).value)
        (answer.call context request).budget = answer.chatVerdict context request := by
  funext x
  rw [verdictOf, answer.answeredOutcome_chat]
  rfl

theorem verdictOf_streamImpl :
    verdictOf (fun o => ((streamImpl (answer.call context request) o).runWith answer).value)
        (answer.call context request).budget = answer.streamVerdict context request := by
  funext x
  rw [verdictOf, answer.answeredOutcome_stream]
  rfl

theorem chatVerdict_ne_emptied (x : ProviderEntry × Nat) :
    answer.chatVerdict context request x ≠ .emptied := by
  refine verdict_ne_emptied (fun site => ?_) _ _ _
  rw [Answers.chatOutcome]
  split <;> simp

/-! ## Reported attempts -/

theorem found_kept_iff {α : Type}
    {impl : FallbackCall → (o : SearchOp) → Gateway (SearchAns α o)}
    {admits : ProviderEntry × Nat → Bool} {verdict : ProviderEntry × Nat → Verdict}
    (hadmits : admitted (fun o =>
      ((impl (answer.call context request) o).runWith answer).value) = admits)
    (hverdict : verdictOf (fun o =>
        ((impl (answer.call context request) o).runWith answer).value)
      (answer.call context request).budget = verdict) :
    Kept (answer.found context request impl).2 (answer.found context request impl).1 ↔
      NoAttemptLost admits verdict (answer.candidates request) := by
  have hstart : List.Forall₂ Call.Matches [] ({} : AttemptLog).attempts := .nil
  have hkept := search_kept_iff
    (fun o => ((impl (answer.call context request) o).runWith answer).value)
    (answer.call context request).budget (answer (.candidateProviders request)).candidates 0
    none hstart
  rw [List.nil_append, hadmits, hverdict] at hkept
  rw [Answers.found, hkept]
  simp [NoAttemptLost, Answers.candidates]

theorem chat_kept_iff :
    Kept (answer.outcome (completeChat context request)).2
        (answer.outcome (completeChat context request)).1 ↔
      NoAttemptLost answer.admits (answer.chatVerdict context request)
        (answer.candidates request) := by
  rw [outcome_completeChat, Kept.map_iff]
  exact found_kept_iff answer context request (admitted_chatImpl answer _)
    (verdictOf_chatImpl answer context request)

theorem stream_kept_iff :
    Kept (answer.outcome (completeChatStream context request)).2
        (answer.outcome (completeChatStream context request)).1 ↔
      NoAttemptLost answer.admits (answer.streamVerdict context request)
        (answer.candidates request) := by
  rw [outcome_completeChatStream, Kept.map_iff]
  exact found_kept_iff answer context request (admitted_streamImpl answer _)
    (verdictOf_streamImpl answer context request)

/-- Both loops report every attempt they made, or made none, exactly when no attempt is
lost on the way: no candidate is admitted, or the last one is, or an admitted one ends
the search by a success or by an error that stops it. -/
theorem attempts_kept_iff :
    (Kept (answer.outcome (completeChat context request)).2
        (answer.outcome (completeChat context request)).1 ↔
      NoAttemptLost answer.admits (answer.chatVerdict context request)
        (answer.candidates request)) ∧
    (Kept (answer.outcome (completeChatStream context request)).2
        (answer.outcome (completeChatStream context request)).1 ↔
      NoAttemptLost answer.admits (answer.streamVerdict context request)
        (answer.candidates request)) :=
  ⟨chat_kept_iff answer context request, stream_kept_iff answer context request⟩

/-- Two candidates without retries, and the answers of the circuits and of the
providers. -/
def twoCandidates (allow : Nat → Bool)
    (chat : Nat → Except ProviderError ChatCompletionResponse)
    (stream : Nat → Except ProviderError (ProviderStreamContext × ProviderStream)) : Answers
  | .candidateProviders _ =>
      ⟨[⟨"mock-primary", "m", {}, 1⟩, ⟨"mock-fallback", "m", {}, 1⟩], .priority, "priority"⟩
  | .allowProviderCall index _ => allow index
  | .tryAcquireRequest _ => .ok 0
  | .tryAcquireProvider _ _ => .ok 0
  | .chatCompletion site _ _ => chat site.candidate
  | .chatCompletionStream site _ _ => stream site.candidate
  | .elapsedMs _ | .streamElapsedMs => 0
  | .unixTimestamp => 0
  | .cacheGet _ => none
  | .recordSuccess _ _ | .recordFailure _ _ | .dropAdmissionGuard _ | .pollStream _
  | .sleep _ _ | .metrics _ | .recordPrefixAffinity _ _ | .recordRequest _
  | .recordUsage _ _ _ | .cachePut _ _ | .yield _ => ()

/-- Default policies, and no fingerprint. -/
def plainContext : FallbackContext where
  policyFor := fun _ => {}
  fingerprintRequest := fun _ => ⟨none, .low⟩

def plainRequest : ChatCompletionRequest where
  model := some "m"
  messages := [{ role := .user, content := "hi" }]

/-- The first candidate is unavailable and the circuit of the second one is open: one
call was made, and the result says that no provider was available. -/
theorem attempt_forgotten_before_open_circuit :
    let answer := twoCandidates (fun index => index == 0)
      (fun _ => .error .providerUnavailable) (fun _ => .error .providerUnavailable)
    ¬ Kept (answer.outcome (completeChat plainContext plainRequest)).2
        (answer.outcome (completeChat plainContext plainRequest)).1 ∧
    ¬ Kept (answer.outcome (completeChatStream plainContext plainRequest)).2
        (answer.outcome (completeChatStream plainContext plainRequest)).1 := by
  decide +kernel

/-! ## Calls after a failure -/

/-- `complete_chat` makes another call only after a retryable failure.
`complete_chat_stream` does so exactly when it does not go on behind an empty stream. -/
theorem calls_follow_retryable_iff :
    (∀ call ∈ (answer.outcome (completeChat context request)).2.dropLast,
      call.retryable = true) ∧
    ((∀ call ∈ (answer.outcome (completeChatStream context request)).2.dropLast,
      call.retryable = true) ↔
      ¬ PassesEmpty answer.admits (answer.streamVerdict context request)
        (answer.candidates request)) := by
  constructor
  · rw [outcome_completeChat, ← List.all_eq_true]
    refine (search_dropLast_iff _ _ _ _ _ _).mpr ?_
    rw [admitted_chatImpl, verdictOf_chatImpl]
    rintro ⟨-, x, -, -, -, -, hx, -⟩
    exact chatVerdict_ne_emptied answer context request x hx
  · rw [outcome_completeChatStream, ← List.all_eq_true]
    refine (search_dropLast_iff _ _ _ _ _ _).trans ?_
    rw [admitted_streamImpl, verdictOf_streamImpl]
    exact Iff.rfl

/-- The first stream ends before its first item, which is a bad response, and the second
candidate is called. -/
theorem call_after_empty_stream :
    let answer := twoCandidates (fun _ => true) (fun _ => .error .providerUnavailable)
      (fun index => .ok (⟨0, 0, "m"⟩, if index = 0 then [] else [.item (.ok (.completed {}))]))
    ¬ ∀ call ∈ (answer.outcome (completeChatStream plainContext plainRequest)).2.dropLast,
      call.retryable = true := by
  decide +kernel

end Loops
end RustyGate
