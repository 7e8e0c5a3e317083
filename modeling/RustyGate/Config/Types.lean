/-
The configuration of the gateway (`src/config.rs`), as far as it is checked or read by
what is modelled.  An `f64` is a rational number and a `usize` a natural number.
-/
import RustyGate.Collections.OrdMap
import Mathlib.Data.Rat.Defs
import Mathlib.Data.String.Basic

namespace RustyGate

inductive RoutingPolicy where
  | priority
  | cost
  | latency
  | prefixAffinity
  deriving DecidableEq, Repr

def RoutingPolicy.asStr : RoutingPolicy → String
  | .priority => "priority"
  | .cost => "cost"
  | .latency => "latency"
  | .prefixAffinity => "prefix_affinity"

structure ServerConfig where
  port : UInt16
  shutdownGracePeriodMs : UInt64 := 10000

structure GatewayRetryConfig where
  initialBackoffMs : UInt64 := 100
  maxBackoffMs : UInt64 := 2000
  jitterMs : UInt64 := 50

structure GatewayCircuitBreakerConfig where
  failureThreshold : UInt32 := 3
  openDurationMs : UInt64 := 5000
  halfOpenMaxProbes : UInt32 := 1

inductive RateLimitBackendConfig where
  | «local»
  | redis
  deriving DecidableEq, Repr

structure RateLimitConfig where
  backend : RateLimitBackendConfig := .local
  globalRequestsPerMinute : UInt32 := 120
  globalBurstSize : UInt32 := 30
  perKeyRequestsPerMinute : UInt32 := 60
  perKeyBurstSize : UInt32 := 20
  maxTrackedKeys : Nat := 10000
  redisUrlEnv : Option String := none

structure RequestLimitsConfig where
  maxChatBodyBytes : Nat := 65536
  maxMessagesPerRequest : Nat := 64
  maxMessageContentChars : Nat := 8000

structure PrefixAffinityConfig where
  ttlSeconds : UInt64 := 300
  maxEntries : Nat := 10000
  loadImbalanceThreshold : UInt64 := 2
  fallbackPolicy : RoutingPolicy := .latency

structure AdmissionConfig where
  maxGlobalInFlight : Option UInt64 := none
  maxEstimatedPromptTokens : Option UInt32 := none
  maxEstimatedTotalTokens : Option UInt32 := none
  retryAfterSeconds : UInt64 := 1

structure GatewayConfig where
  defaultTimeoutMs : UInt64
  streamIdleTimeoutMs : UInt64 := 30000
  maxRetries : UInt32
  healthCheckIntervalMs : UInt64 := 30000
  routingPolicy : RoutingPolicy := .priority
  prefixAffinity : PrefixAffinityConfig := {}
  modelAliases : OrdMap String String := .empty
  retry : GatewayRetryConfig := {}
  circuitBreaker : GatewayCircuitBreakerConfig := {}
  apiKeyEnv : String
  rateLimit : RateLimitConfig := {}
  requestLimits : RequestLimitsConfig := {}
  admission : AdmissionConfig := {}

structure TelemetryConfig where
  serviceName : String := "rustygate"
  otlpEndpoint : Option String := none
  sampleRatio : ℚ := 1

structure SemanticCacheConfig where
  enabled : Bool := false
  embeddingProvider : Option String := none
  similarityThreshold : ℚ := 95 / 100
  indexCapacity : Nat := 10000

structure CacheConfig where
  enabled : Bool := false
  defaultTtlSeconds : UInt64 := 600
  maxEntries : Nat := 10000
  semantic : SemanticCacheConfig := {}

structure StorageConfig where
  enabled : Bool := false
  databaseUrl : String := "sqlite://rustygate.db"
  retentionDays : UInt64 := 30

inductive ProviderKind where
  | mock
  | openaiCompatible
  | anthropic
  deriving DecidableEq, Repr

structure ProviderConfig where
  name : String
  kind : ProviderKind
  model : String
  priority : UInt32
  failureRate : ℚ := 0
  baseUrl : Option String := none
  apiKeyEnv : Option String := none
  timeoutMs : Option UInt64 := none
  maxRetries : Option UInt32 := none
  retryInitialBackoffMs : Option UInt64 := none
  retryMaxBackoffMs : Option UInt64 := none
  retryJitterMs : Option UInt64 := none
  circuitBreakerFailureThreshold : Option UInt32 := none
  circuitBreakerOpenDurationMs : Option UInt64 := none
  circuitBreakerHalfOpenMaxProbes : Option UInt32 := none
  maxInFlight : Option UInt64 := none
  costPer1kInputTokens : ℚ
  costPer1kOutputTokens : ℚ

structure ModelPoolConfig where
  name : String
  aliases : List String := []
  routingPolicy : Option RoutingPolicy := none
  members : List String := []
  maxInFlight : Option UInt64 := none

structure AppConfig where
  server : ServerConfig
  gateway : GatewayConfig
  telemetry : TelemetryConfig := {}
  cache : CacheConfig := {}
  storage : StorageConfig := {}
  providers : List ProviderConfig := []
  modelPools : List ModelPoolConfig := []

end RustyGate
