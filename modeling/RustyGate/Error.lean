/-
The errors of the gateway: what a provider call can fail with
(`src/providers/provider.rs`) and what a client is told (`src/error.rs`).
-/
import RustyGate.Uuid

namespace RustyGate

inductive ProviderError where
  | timeout
  | rateLimited
  | authenticationFailed
  | providerUnavailable
  | providerBadResponse
  deriving DecidableEq, Repr

inductive AppError where
  | invalidRequest (message : String) (requestId : Option Uuid)
  | unauthorized (message : String) (requestId : Option Uuid)
  | forbidden (message : String) (requestId : Option Uuid)
  | gatewayRateLimited (requestId : Option Uuid) (retryAfterSeconds : UInt64)
  | admissionRejected (message : String) (requestId : Option Uuid)
      (retryAfterSeconds : UInt64)
  | noProviderAvailable (requestId : Option Uuid)
  | providerRateLimited (requestId : Option Uuid)
  | providerTimeout (requestId : Option Uuid)
  | providerFailure (requestId : Option Uuid)
  | internal (requestId : Option Uuid)
  deriving DecidableEq

namespace AppError

def publicMessage : AppError → String
  | invalidRequest message _ => message
  | unauthorized message _ | forbidden message _ => message
  | gatewayRateLimited _ _ => "request rate limit exceeded, retry later"
  | admissionRejected message _ _ => message
  | noProviderAvailable _ => "no provider is available for this request"
  | providerRateLimited _ => "provider rate limited this request"
  | providerTimeout _ => "provider timed out while handling this request"
  | providerFailure _ => "provider failed to process this request"
  | internal _ => "an internal error occurred"

def fromProviderError (error : ProviderError) (requestId : Option Uuid) : AppError :=
  match error with
  | .rateLimited => providerRateLimited requestId
  | .timeout => providerTimeout requestId
  | .authenticationFailed | .providerUnavailable | .providerBadResponse =>
      providerFailure requestId

end AppError
end RustyGate
