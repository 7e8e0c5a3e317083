/-
The search both fallback loops perform.

A search goes through the candidates, asks for leave to call one, reserves it, and
calls it until it is served, fails for good, has used up its retries, or is empty.
`search` says this once, over an interface that only has these steps.  The two loops of
`src/routing/fallback.rs` are interpretations of it (`completeChat_eq`,
`completeChatStream_eq`): they differ in what a call is, in what they note down, and in
who keeps the slot of the provider that served.

An empty outcome only exists for streams.  The search treats it as the source does: it
moves on to the next candidate if there is one.
-/
import RustyGate.Routing.Fallback

namespace RustyGate

open Effect Effect.Program Gateway

inductive Outcome (α : Type) where
  | served (value : α)
  | failed (error : ProviderError)
  | empty

namespace Outcome

/-- The error an attempt with this outcome is recorded with. -/
def error {α : Type} : Outcome α → Option ProviderError
  | served _ => none
  | failed e => some e
  | empty => some .providerBadResponse

end Outcome

inductive SearchOp where
  | allow (index : Nat) (provider : String)
  | reserve (index : Nat) (provider : String)
  | call (site : Site) (entry : ProviderEntry)
  /-- The call was served, which is reported. -/
  | won (index : Nat) (provider : String)
  | backoff (site : Site) (provider : String)
  /-- The last retry failed, which is reported. -/
  | lost (index : Nat) (provider : String)
  /-- The call ended and nothing is reported. -/
  | quit (provider : String)
  /-- The search is over and the slot goes to the caller. -/
  | handOver (guard : GuardId)
  | release (guard : GuardId)

@[reducible] def SearchAns (α : Type) : SearchOp → Type
  | .allow _ _ => Bool
  | .reserve _ _ => Except AdmissionRejection GuardId
  | .call _ _ => Outcome α × UInt64
  | .won _ _ | .backoff _ _ | .lost _ _ | .quit _ | .handOver _ | .release _ => Unit

/-- What a successful search has found. -/
structure Found (α : Type) where
  value : α
  entry : ProviderEntry
  guard : GuardId
  attempts : List ProviderAttempt

section Search

variable {α : Type}

abbrev Search (α β : Type) := Program SearchOp (SearchAns α) β

abbrev Search.ask (o : SearchOp) : Search α (SearchAns α o) := Program.perform o

/-- The calls of one candidate. -/
def searchRetries (entry : ProviderEntry) (index : Nat) (guard : GuardId) (more : Bool) :
    (left retry : Nat) → Option ProviderError → AttemptLog →
      Search α (RetryExit (Found α))
  | left, retry, last, log => do
      let (outcome, latencyMs) ← Search.ask (.call ⟨index, retry⟩ entry)
      let log := log.push entry.name (0 < index) latencyMs outcome.error
      match outcome with
      | .served value =>
          Search.ask (.won index entry.name)
          return .returned (.ok ⟨value, entry, guard, log.attempts⟩)
      | .failed error =>
          match fallbackDecision error with
          | .tryNextProvider =>
              match left with
              | left + 1 =>
                  Search.ask (.backoff ⟨index, retry⟩ entry.name)
                  searchRetries entry index guard more left (retry + 1) (some error) log
              | 0 =>
                  Search.ask (.lost index entry.name)
                  return .left (some error) log
          | .stop =>
              Search.ask (.quit entry.name)
              return .returned (.error (.providerFailed error log.attempts))
      | .empty =>
          Search.ask (.quit entry.name)
          if more then return .left last log
          else return .returned (.error (.providerFailed .providerBadResponse log.attempts))

/-- The search through the candidates.  `budget` is the number of retries of a
provider. -/
def search (budget : String → Nat) :
    List ProviderEntry → Nat → AttemptLog → Option AdmissionRejection →
      Search α (Except FallbackError (Found α))
  | [], _, _, rejection => return exhausted rejection
  | entry :: rest, index, log, rejection => do
      match ← Search.ask (.allow index entry.name) with
      | false => search budget rest (index + 1) log rejection
      | true =>
          match ← Search.ask (.reserve index entry.name) with
          | .error rejected => search budget rest (index + 1) log (some rejected)
          | .ok guard =>
              match ← searchRetries entry index guard (!rest.isEmpty) (budget entry.name) 0
                none log with
              | .returned (.ok found) =>
                  Search.ask (.handOver guard)
                  return .ok found
              | .returned (.error error) =>
                  Search.ask (.release guard)
                  return .error error
              | .left last log =>
                  Search.ask (.release guard)
                  match last with
                  | some error =>
                      if rest.isEmpty then
                        return .error (.providerFailed error log.attempts)
                      else search budget rest (index + 1) log rejection
                  | none => search budget rest (index + 1) log rejection

end Search

/-! ## The two loops -/

section Loops

variable (c : FallbackCall)

/-- The steps of the search that both loops implement alike.  `call` is the call with
its outcome and latency, `won` ends a served call, and `handOver` disposes of the
slot. -/
def implement {α : Type} (call : Site → ProviderEntry → Gateway (Outcome α × UInt64))
    (wonEnd : String → Gateway Unit) (handOver : GuardId → Gateway Unit) :
    (o : SearchOp) → Gateway (SearchAns α o)
  | .allow index provider => do
      let allowed ← ask (.allowProviderCall index provider)
      if allowed then return true
      else
        recordRoutingDecision c.policy "circuit_open"
        return false
  | .reserve index provider => do
      let reserved ← ask (.tryAcquireProvider index provider)
      match reserved with
      | .error rejected => return .error rejected
      | .ok guard =>
          recordFallback c.policy index
          return .ok guard
  | .call site entry => call site entry
  | .won index provider => do
      ask (.recordSuccess index provider)
      recordRoutingDecision c.policy "selected"
      recordPrefixAffinitySelection c.fingerprint provider c.policy
      wonEnd provider
  | .backoff site provider => do
      ask (.sleep site (retryBackoff (c.retryPolicy provider) (site.retry + 1) provider))
      metrics (.endProviderRequest provider c.inFlightUnits)
  | .lost index provider => do
      ask (.recordFailure index provider)
      metrics (.endProviderRequest provider c.inFlightUnits)
  | .quit provider => metrics (.endProviderRequest provider c.inFlightUnits)
  | .handOver guard => handOver guard
  | .release guard => ask (.dropAdmissionGuard guard)

section Performs

variable {P : Op → Prop}

theorem recordFallback_performs
    (hdecision : ∀ policy reason, P (.metrics (.recordRoutingDecision policy reason)))
    (policy : RoutingPolicy) (index : Nat) : (recordFallback policy index).Performs P := by
  unfold recordFallback
  split
  · exact ⟨hdecision .., fun _ => trivial⟩
  · trivial

theorem recordPrefixAffinitySelection_performs
    (haffinity : ∀ fingerprint provider, P (.recordPrefixAffinity fingerprint provider))
    (f : PrefixFingerprintResult) (provider : String) (policy : RoutingPolicy) :
    (recordPrefixAffinitySelection f provider policy).Performs P := by
  unfold recordPrefixAffinitySelection
  split
  · split
    · exact ⟨haffinity .., fun _ => trivial⟩
    · trivial
  · trivial

end Performs

/-- A call of `complete_chat`. -/
def chatCall (site : Site) (entry : ProviderEntry) :
    Gateway (Outcome ChatCompletionResponse × UInt64) := do
  metrics (.beginProviderRequest entry.name c.inFlightUnits)
  let result ← ask (.chatCompletion site entry.name (requestForProvider c.request entry.model))
  let latencyMs ← ask (.elapsedMs (some site))
  match result with
  | .ok response => return (.served response, latencyMs)
  | .error error => return (.failed error, latencyMs)

/-- `complete_chat` gives back both guards itself. -/
def chatImpl : (o : SearchOp) → Gateway (SearchAns ChatCompletionResponse o) :=
  implement c (chatCall c)
    (fun provider => metrics (.endProviderRequest provider c.inFlightUnits))
    (fun guard => ask (.dropAdmissionGuard guard))

/-- What a served stream is: its context, its first event and what is left of it. -/
abbrev Opened := ProviderStreamContext × ProviderStreamEvent × ProviderStream

/-- The outcome of a stream call, from the answer of the provider. -/
def streamOutcome :
    Except ProviderError (ProviderStreamContext × ProviderStream) → Outcome Opened
  | .error error => .failed error
  | .ok (context, stream) =>
      match stream.next with
      | (some (.ok event), rest) => .served (context, event, rest)
      | (some (.error error), _) => .failed error
      | (none, _) => .empty

/-- A call of `complete_chat_stream`, up to the first item of the stream. -/
def streamCall (site : Site) (entry : ProviderEntry) : Gateway (Outcome Opened × UInt64) := do
  metrics (.beginProviderRequest entry.name c.inFlightUnits)
  let result ←
    ask (.chatCompletionStream site entry.name (requestForProvider c.request entry.model))
  match result with
  | .error error =>
      let latencyMs ← ask (.elapsedMs (some site))
      return (.failed error, latencyMs)
  | .ok (context, stream) =>
      ask (.pollStream entry.name)
      let latencyMs ← ask (.elapsedMs (some site))
      match stream.next with
      | (some (.ok event), rest) =>
          metrics (.recordProviderTtft entry.name latencyMs)
          return (.served (context, event, rest), latencyMs)
      | (some (.error error), _) => return (.failed error, latencyMs)
      | (none, _) => return (.empty, latencyMs)

/-- `complete_chat_stream` leaves both guards to the stream. -/
def streamImpl : (o : SearchOp) → Gateway (SearchAns Opened o) :=
  implement c (streamCall c) (fun _ => .ret ()) (fun _ => .ret ())

namespace Found

def toChat (f : Found ChatCompletionResponse) : FallbackSuccess :=
  let cost := f.entry.pricing.estimateCost f.value.usage.promptTokens
    f.value.usage.completionTokens
  { response := f.value
    providerName := f.entry.name
    costEstimate := cost
    estimatedCostUsd := cost.totalCostUsd
    attempts := f.attempts }

def toStream (f : Found Opened) : StreamingFallbackSuccess where
  context := f.value.1
  firstEvent := f.value.2.1
  stream := f.value.2.2
  providerName := f.entry.name
  pricing := f.entry.pricing
  attempts := f.attempts
  inFlightUnits := c.inFlightUnits
  admissionGuard := f.guard

end Found

def RetryExit.map {α β : Type} (f : α → β) : RetryExit α → RetryExit β
  | .returned (.ok a) => .returned (.ok (f a))
  | .returned (.error e) => .returned (.error e)
  | .left last log => .left last log

theorem chatRetries_eq (entry : ProviderEntry) (index : Nat) (guard : GuardId) (more : Bool)
    (left retry : Nat) (last : Option ProviderError) (log : AttemptLog) :
    chatRetries c entry index left retry log =
      ((searchRetries entry index guard more left retry last log).interp (chatImpl c)).bind
        fun exit => .ret (exit.map Found.toChat) := by
  rw [chatRetries, searchRetries]
  simp only [bind_eq_bind, perform_bind, pure_eq_ret, interp_op, chatImpl, implement, chatCall,
    op_bind]
  refine congrArg _ (funext fun _ => congrArg _ (funext fun result =>
    congrArg _ (funext fun latencyMs => ?_)))
  cases result with
  | ok response =>
      simp only [ret_bind, interp_op, interp_ret, implement, bind_eq_bind, perform_bind, op_bind,
        bind_assoc, RetryExit.map, Found.toChat, Outcome.error]
  | error error =>
      simp only [ret_bind, Outcome.error]
      cases fallbackDecision error with
      | stop => rfl
      | tryNextProvider =>
          cases left with
          | zero => rfl
          | succ left =>
              simp only [interp_op, implement, bind_eq_bind, perform_bind, op_bind]
              refine congrArg _ (funext fun _ => congrArg _ (funext fun _ => ?_))
              exact chatRetries_eq entry index guard more left (retry + 1) (some error) _

/-- The number of retries the policy of a provider allows. -/
def FallbackCall.budget (c : FallbackCall) (provider : String) : Nat :=
  (c.retryPolicy provider).maxRetries.toNat

theorem chatCandidates_eq (candidates : List ProviderEntry) (index : Nat) (log : AttemptLog)
    (rejection : Option AdmissionRejection) :
    chatCandidates c candidates index log rejection =
      ((search c.budget candidates index log rejection).interp (chatImpl c)).bind
        fun result => .ret (result.map Found.toChat) := by
  induction candidates generalizing index log rejection with
  | nil => cases rejection <;> rfl
  | cons entry rest ih =>
      rw [chatCandidates, search]
      refine op_congr fun allowed => ?_
      cases allowed with
      | false => exact op_congr fun _ => ih _ _ _
      | true =>
          refine op_congr fun reserved => ?_
          cases reserved with
          | error rejected => exact ih _ _ _
          | ok guard =>
              simp only [bind_eq_bind, pure_eq_ret, bind_assoc, ret_bind]
              refine Program.bind_congr fun _ => ?_
              rw [show (c.retryPolicy entry.name).maxRetries.toNat = c.budget entry.name from rfl,
                chatRetries_eq c entry index guard (!rest.isEmpty), interp_bind, bind_assoc,
                bind_assoc]
              refine Program.bind_congr fun exit => ?_
              cases exit with
              | returned result => cases result <;> rfl
              | left last log =>
                  cases last with
                  | none => exact op_congr fun _ => ih _ _ _
                  | some error =>
                      refine op_congr fun _ => ?_
                      cases rest with
                      | nil => rfl
                      | cons next rest => exact ih _ _ _

theorem streamRetries_eq (entry : ProviderEntry) (index : Nat) (guard : GuardId) (more : Bool)
    (left retry : Nat) (last : Option ProviderError) (log : AttemptLog) :
    streamRetries c entry index guard more left retry last log =
      ((searchRetries entry index guard more left retry last log).interp (streamImpl c)).bind
        fun exit => .ret (exit.map (Found.toStream c)) := by
  rw [streamRetries, searchRetries]
  simp only [bind_eq_bind, perform_bind, pure_eq_ret, interp_op, streamImpl, implement, streamCall,
    op_bind]
  refine congrArg _ (funext fun _ => congrArg _ (funext fun result => ?_))
  cases result with
  | error error =>
      refine op_congr fun latencyMs => ?_
      simp only [ret_bind, Outcome.error]
      cases fallbackDecision error with
      | stop => rfl
      | tryNextProvider =>
          cases left with
          | zero => rfl
          | succ left =>
              refine op_congr fun _ => op_congr fun _ => ?_
              exact streamRetries_eq entry index guard more left (retry + 1) (some error) _
  | ok opened =>
      obtain ⟨context, stream⟩ := opened
      refine op_congr fun _ => op_congr fun latencyMs => ?_
      generalize stream.next = polled
      obtain ⟨polled, rest⟩ := polled
      cases polled with
      | none =>
          simp only [ret_bind, Outcome.error]
          cases more <;> rfl
      | some item =>
          cases item with
          | ok firstEvent =>
              simp only [op_bind, ret_bind, interp_op, interp_ret, implement, bind_eq_bind,
                perform_bind, bind_assoc, RetryExit.map, Found.toStream, Outcome.error]
          | error error =>
              simp only [ret_bind, Outcome.error]
              cases fallbackDecision error with
              | stop => rfl
              | tryNextProvider =>
                  cases left with
                  | zero => rfl
                  | succ left =>
                      refine op_congr fun _ => op_congr fun _ => ?_
                      exact streamRetries_eq entry index guard more left (retry + 1) (some error) _

theorem streamCandidates_eq (candidates : List ProviderEntry) (index : Nat) (log : AttemptLog)
    (rejection : Option AdmissionRejection) :
    streamCandidates c candidates index log rejection =
      ((search c.budget candidates index log rejection).interp (streamImpl c)).bind
        fun result => .ret (result.map (Found.toStream c)) := by
  induction candidates generalizing index log rejection with
  | nil => cases rejection <;> rfl
  | cons entry rest ih =>
      rw [streamCandidates, search]
      refine op_congr fun allowed => ?_
      cases allowed with
      | false => exact op_congr fun _ => ih _ _ _
      | true =>
          refine op_congr fun reserved => ?_
          cases reserved with
          | error rejected => exact ih _ _ _
          | ok guard =>
              simp only [bind_eq_bind, pure_eq_ret, bind_assoc, ret_bind]
              refine Program.bind_congr fun _ => ?_
              rw [show (c.retryPolicy entry.name).maxRetries.toNat = c.budget entry.name from rfl,
                streamRetries_eq c entry index guard (!rest.isEmpty), interp_bind, bind_assoc,
                bind_assoc]
              refine Program.bind_congr fun exit => ?_
              cases exit with
              | returned result => cases result <;> rfl
              | left last log =>
                  cases last with
                  | none => exact op_congr fun _ => ih _ _ _
                  | some error =>
                      refine op_congr fun _ => ?_
                      cases rest with
                      | nil => rfl
                      | cons next rest => exact ih _ _ _

end Loops

/-! ## The loops as a whole -/

section Whole

variable (context : FallbackContext) (request : ChatCompletionRequest)

/-- A loop: the search over the candidates of the selection.  That there are none need not be
asked first, because a search over none ends in the same way. -/
def fallbackLoop {α β : Type} (impl : FallbackCall → (o : SearchOp) → Gateway (SearchAns α o))
    (result : FallbackCall → Found α → β) : Gateway (Except FallbackError β) := do
  recordPrefixFingerprint (context.fingerprintRequest request)
  let selection ← ask (.candidateProviders request)
  recordRoutingDecision selection.effectivePolicy selection.reason
  let c : FallbackCall := ⟨context, request, selection.effectivePolicy⟩
  ((search c.budget selection.candidates 0 {} none).interp (impl c)).bind fun found =>
    .ret (found.map (result c))

theorem completeChat_eq :
    completeChat context request =
      fallbackLoop context request chatImpl fun _ => Found.toChat := by
  refine op_congr fun _ => op_congr fun selection => op_congr fun _ => ?_
  obtain ⟨candidates, policy, reason⟩ := selection
  cases candidates with
  | nil => rfl
  | cons entry rest => exact chatCandidates_eq _ _ _ _ _

theorem completeChatStream_eq :
    completeChatStream context request =
      fallbackLoop context request streamImpl Found.toStream := by
  refine op_congr fun _ => op_congr fun selection => op_congr fun _ => ?_
  obtain ⟨candidates, policy, reason⟩ := selection
  cases candidates with
  | nil => rfl
  | cons entry rest => exact streamCandidates_eq _ _ _ _ _

end Whole
end RustyGate
