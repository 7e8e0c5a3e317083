/-
Provider attempts (`src/routing/fallback.rs`) and the request log entries that carry
them (`src/telemetry/request_log.rs`).  The time an entry was made is an argument.
-/
import RustyGate.Providers.Provider

namespace RustyGate

inductive ProviderErrorCategory where
  | timeout
  | rateLimited
  | authenticationFailed
  | providerUnavailable
  | providerBadResponse
  deriving DecidableEq, Repr

namespace ProviderErrorCategory

def asStr : ProviderErrorCategory → String
  | timeout => "timeout"
  | rateLimited => "rate_limited"
  | authenticationFailed => "authentication_failed"
  | providerUnavailable => "provider_unavailable"
  | providerBadResponse => "provider_bad_response"

end ProviderErrorCategory

def providerErrorCategory : ProviderError → ProviderErrorCategory
  | .timeout => .timeout
  | .rateLimited => .rateLimited
  | .authenticationFailed => .authenticationFailed
  | .providerUnavailable => .providerUnavailable
  | .providerBadResponse => .providerBadResponse

structure ProviderAttempt where
  providerName : String
  attemptOrder : Nat
  latencyMs : UInt64
  success : Bool
  isFallback : Bool
  errorCategory : Option ProviderErrorCategory
  deriving DecidableEq, Repr

inductive RequestErrorCategory where
  | invalidRequest
  | admissionRejected
  | noProviderAvailable
  | timeout
  | rateLimited
  | authenticationFailed
  | providerUnavailable
  | providerBadResponse
  deriving DecidableEq, Repr

namespace RequestErrorCategory

def asStr : RequestErrorCategory → String
  | invalidRequest => "invalid_request"
  | admissionRejected => "admission_rejected"
  | noProviderAvailable => "no_provider_available"
  | timeout => "timeout"
  | rateLimited => "rate_limited"
  | authenticationFailed => "authentication_failed"
  | providerUnavailable => "provider_unavailable"
  | providerBadResponse => "provider_bad_response"

def ofProvider : ProviderErrorCategory → RequestErrorCategory
  | .timeout => timeout
  | .rateLimited => rateLimited
  | .authenticationFailed => authenticationFailed
  | .providerUnavailable => providerUnavailable
  | .providerBadResponse => providerBadResponse

end RequestErrorCategory

structure RequestLoggingConfig where
  enabled : Bool := true
  logPromptContent : Bool := false
  deriving DecidableEq, Repr

inductive RequestLogStatus where
  | success
  | failure
  deriving DecidableEq, Repr

def RequestLogStatus.asStr : RequestLogStatus → String
  | .success => "success"
  | .failure => "failure"

structure RequestProviderAttempt where
  providerName : String
  attemptOrder : Nat
  latencyMs : UInt64
  success : Bool
  isFallback : Bool
  errorCategory : Option RequestErrorCategory
  deriving DecidableEq, Repr

def RequestProviderAttempt.from (attempt : ProviderAttempt) : RequestProviderAttempt where
  providerName := attempt.providerName
  attemptOrder := attempt.attemptOrder
  latencyMs := attempt.latencyMs
  success := attempt.success
  isFallback := attempt.isFallback
  errorCategory := attempt.errorCategory.map .ofProvider

structure RequestLogEntry where
  requestId : Uuid
  route : String
  createdAtUnixSeconds : Int
  requestedModel : Option String
  stream : Bool
  finalProvider : Option String
  status : RequestLogStatus
  latencyMs : UInt64
  usage : Option TokenUsage
  costEstimate : Option CostEstimate
  errorCategory : Option RequestErrorCategory
  providerAttempts : List RequestProviderAttempt
  promptMessages : Option (List ChatMessage)
  deriving DecidableEq

namespace RequestLogEntry

def promptMessagesOf (request : Option ChatCompletionRequest) (config : RequestLoggingConfig) :
    Option (List ChatMessage) :=
  if config.logPromptContent then request.map (·.messages) else none

def new (now : Int) (requestId : Uuid) (route : String)
    (request : Option ChatCompletionRequest) (finalProvider : Option String)
    (status : RequestLogStatus) (latencyMs : UInt64) (usage : Option TokenUsage)
    (costEstimate : Option CostEstimate) (errorCategory : Option RequestErrorCategory)
    (attempts : List ProviderAttempt) (config : RequestLoggingConfig) : RequestLogEntry where
  requestId := requestId
  route := route
  createdAtUnixSeconds := now
  requestedModel := request.bind (·.model)
  stream := (request.map (·.streamEnabled)).getD false
  finalProvider := finalProvider
  status := status
  latencyMs := latencyMs
  usage := usage
  costEstimate := costEstimate
  errorCategory := errorCategory
  providerAttempts := attempts.map .from
  promptMessages := promptMessagesOf request config

end RequestLogEntry
end RustyGate
