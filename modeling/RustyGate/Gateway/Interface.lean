/-
What a request asks of the rest of the gateway.

The code that serves a request is a program over `Op`.  An operation is a step that
other requests can see (the circuits, the admission counters, the metrics, the cache,
the log), a step whose answer comes from outside (the providers, the clocks), or an
event handed to the client.  Pure computation stays in the programs.

An operation that one call performs several times carries its position: the index of
the candidate and the retry.  The position only says which of the calls is meant, so
that an assignment of answers to operations can give each call its own.
-/
import RustyGate.Config.Types
import RustyGate.Effect.Program
import RustyGate.Models.Responses
import RustyGate.Routing.Admission
import RustyGate.Telemetry.Metrics

namespace RustyGate

open Effect

/-- What routing answers: the providers to try in order, the policy that ordered them
and why. -/
structure CandidateSelection where
  candidates : List ProviderEntry
  effectivePolicy : RoutingPolicy
  reason : String
  deriving DecidableEq

/-- The position of a provider call within `complete_chat` or `complete_chat_stream`. -/
structure Site where
  candidate : Nat
  retry : Nat
  deriving DecidableEq, Repr

/-- A handle to an admission guard. -/
abbrev GuardId := Nat

/-- An event of a streamed answer, by its content.  `done` is the `[DONE]` event. -/
inductive SseEvent where
  | chatChunk (chunk : ChatCompletionChunkResponse)
  | chatError (message : String) (requestId : Uuid)
  | responseTextDelta (payload : ResponseTextDelta)
  | responseCompleted (response : ResponseObject)
  | responseError (message : String)
  | done

inductive Op where
  | candidateProviders (request : ChatCompletionRequest)
  | allowProviderCall (candidate : Nat) (provider : String)
  | recordSuccess (candidate : Nat) (provider : String)
  | recordFailure (candidate : Nat) (provider : String)
  | tryAcquireRequest (poolName : Option String)
  | tryAcquireProvider (candidate : Nat) (provider : String)
  | dropAdmissionGuard (guard : GuardId)
  | chatCompletion (site : Site) (provider : String) (request : ChatCompletionRequest)
  | chatCompletionStream (site : Site) (provider : String) (request : ChatCompletionRequest)
  /-- Waiting for the next item of a provider's stream. -/
  | pollStream (provider : String)
  /-- `started.elapsed()`, of one provider call or of the whole request. -/
  | elapsedMs (site : Option Site)
  /-- The age of the guard that records the outcome of a stream. -/
  | streamElapsedMs
  | sleep (site : Site) (ms : Nat)
  | unixTimestamp
  | metrics (update : MetricsUpdate)
  | recordPrefixAffinity (fingerprint provider : String)
  | recordRequest (entry : RequestLogEntry)
  | recordUsage (apiKeyId : String) (totalTokens : UInt64) (totalCostUsd : ℚ)
  | cacheGet (key : String)
  | cachePut (key : String) (response : ChatCompletionResponse)
  | yield (event : SseEvent)

@[reducible] def Ans : Op → Type
  | .candidateProviders _ => CandidateSelection
  | .allowProviderCall _ _ => Bool
  | .tryAcquireRequest _ => Except AdmissionRejection GuardId
  | .tryAcquireProvider _ _ => Except AdmissionRejection GuardId
  | .chatCompletion _ _ _ => Except ProviderError ChatCompletionResponse
  | .chatCompletionStream _ _ _ =>
      Except ProviderError (ProviderStreamContext × ProviderStream)
  | .elapsedMs _ | .streamElapsedMs => UInt64
  | .unixTimestamp => Int
  | .cacheGet _ => Option ChatCompletionResponse
  | .recordSuccess _ _ | .recordFailure _ _ | .dropAdmissionGuard _ | .pollStream _
  | .sleep _ _ | .metrics _ | .recordPrefixAffinity _ _ | .recordRequest _
  | .recordUsage _ _ _ | .cachePut _ _ | .yield _ => Unit

abbrev Gateway (α : Type) := Program Op Ans α

namespace Gateway

/-- Perform one operation. -/
abbrev ask (o : Op) : Gateway (Ans o) := Program.perform o

/-- Perform one recording operation of the metrics, behind their lock. -/
abbrev metrics (update : MetricsUpdate) : Gateway Unit := ask (.metrics update)

abbrev recordRoutingDecision (policy : RoutingPolicy) (reason : String) : Gateway Unit :=
  metrics (.recordRoutingDecision policy.asStr reason)

end Gateway
end RustyGate
