/-
The checks on a configuration (`AppConfig::validate` in `src/config.rs`).

Every check adds the texts of what it finds to a list, in the order of the source, and
the configuration is accepted when the list stays empty.  The two sets in which
`validate_model_pools` collects public names, one to notice repetitions and one to
return, receive the same names and are one set here.
-/
import RustyGate.Config.Types
import RustyGate.Text.Str
import Mathlib.Data.Finset.Insert

namespace RustyGate

open Text

inductive ConfigError where
  | validation (message : String)
  deriving DecidableEq, Repr

/-- The error of one check. -/
def reject (found : Bool) (message : String) : List String := if found then [message] else []

def rejectZero (found : Bool) (field : String) : List String :=
  reject found (field ++ " must be greater than 0")

theorem reject_eq_nil {found : Bool} {message : String} :
    reject found message = [] ↔ found = false := by
  cases found <;> simp [reject]

theorem rejectZero_eq_nil {found : Bool} {field : String} :
    rejectZero found field = [] ↔ found = false := reject_eq_nil

/-! ## The sections -/

def validateCacheConfig (cache : CacheConfig) : List String :=
  reject (cache.enabled && cache.defaultTtlSeconds == 0)
    "cache.default_ttl_seconds must be greater than 0 when cache is enabled" ++
  reject (cache.enabled && cache.maxEntries == 0)
    "cache.max_entries must be greater than 0 when cache is enabled" ++
  reject (cache.semantic.enabled && cache.semantic.embeddingProvider.isNone)
    "cache.semantic.embedding_provider must be set when semantic cache is enabled" ++
  reject (!(0 ≤ cache.semantic.similarityThreshold && cache.semantic.similarityThreshold ≤ 1))
    "cache.semantic.similarity_threshold must be between 0.0 and 1.0" ++
  reject (cache.semantic.enabled && cache.semantic.indexCapacity == 0)
    "cache.semantic.index_capacity must be greater than 0 when semantic cache is enabled"

def validateTelemetryConfig (telemetry : TelemetryConfig) : List String :=
  reject (isBlank telemetry.serviceName) "telemetry.service_name must not be empty" ++
  reject (!(0 ≤ telemetry.sampleRatio && telemetry.sampleRatio ≤ 1))
    "telemetry.sample_ratio must be between 0.0 and 1.0" ++
  reject (telemetry.otlpEndpoint.any isBlank) "telemetry.otlp_endpoint must not be empty when set"

/-- The part of `validate_gateway_config` on rate limits. -/
def validateRateLimitConfig (rateLimit : RateLimitConfig) : List String :=
  rejectZero (rateLimit.globalRequestsPerMinute == 0)
    "gateway.rate_limit.global_requests_per_minute" ++
  rejectZero (rateLimit.globalBurstSize == 0) "gateway.rate_limit.global_burst_size" ++
  rejectZero (rateLimit.perKeyRequestsPerMinute == 0)
    "gateway.rate_limit.per_key_requests_per_minute" ++
  rejectZero (rateLimit.perKeyBurstSize == 0) "gateway.rate_limit.per_key_burst_size" ++
  rejectZero (rateLimit.maxTrackedKeys == 0) "gateway.rate_limit.max_tracked_keys" ++
  reject (rateLimit.backend == .redis && isBlank (rateLimit.redisUrlEnv.getD ""))
    "gateway.rate_limit.redis_url_env must be set when backend is redis"

def validateModelAliases (aliases : OrdMap String String) : List String :=
  aliases.entries.flatMap fun (name, target) =>
    reject (isBlank name) "gateway.model_aliases must not contain empty alias names" ++
    reject (isBlank target)
      ("gateway.model_aliases entry `" ++ name ++ "` must not have an empty target")

def validateGatewayConfig (gateway : GatewayConfig) : List String :=
  rejectZero (gateway.defaultTimeoutMs == 0) "gateway.default_timeout_ms" ++
  rejectZero (gateway.streamIdleTimeoutMs == 0) "gateway.stream_idle_timeout_ms" ++
  rejectZero (gateway.healthCheckIntervalMs == 0) "gateway.health_check_interval_ms" ++
  reject (isBlank gateway.apiKeyEnv) "gateway.api_key_env must not be empty" ++
  rejectZero (gateway.retry.initialBackoffMs == 0) "gateway.retry.initial_backoff_ms" ++
  rejectZero (gateway.retry.maxBackoffMs == 0) "gateway.retry.max_backoff_ms" ++
  reject (gateway.retry.maxBackoffMs < gateway.retry.initialBackoffMs)
    "gateway.retry.max_backoff_ms must be greater than or equal to initial_backoff_ms" ++
  rejectZero (gateway.circuitBreaker.failureThreshold == 0)
    "gateway.circuit_breaker.failure_threshold" ++
  rejectZero (gateway.circuitBreaker.openDurationMs == 0)
    "gateway.circuit_breaker.open_duration_ms" ++
  rejectZero (gateway.circuitBreaker.halfOpenMaxProbes == 0)
    "gateway.circuit_breaker.half_open_max_probes" ++
  validateRateLimitConfig gateway.rateLimit ++
  rejectZero (gateway.requestLimits.maxChatBodyBytes == 0)
    "gateway.request_limits.max_chat_body_bytes" ++
  rejectZero (gateway.requestLimits.maxMessagesPerRequest == 0)
    "gateway.request_limits.max_messages_per_request" ++
  rejectZero (gateway.requestLimits.maxMessageContentChars == 0)
    "gateway.request_limits.max_message_content_chars" ++
  rejectZero (gateway.prefixAffinity.ttlSeconds == 0) "gateway.prefix_affinity.ttl_seconds" ++
  rejectZero (gateway.prefixAffinity.maxEntries == 0) "gateway.prefix_affinity.max_entries" ++
  reject (gateway.prefixAffinity.fallbackPolicy == .cost ||
      gateway.prefixAffinity.fallbackPolicy == .prefixAffinity)
    "gateway.prefix_affinity.fallback_policy must be either priority or latency" ++
  rejectZero (gateway.admission.maxGlobalInFlight == some 0)
    "gateway.admission.max_global_in_flight" ++
  rejectZero (gateway.admission.maxEstimatedPromptTokens == some 0)
    "gateway.admission.max_estimated_prompt_tokens" ++
  rejectZero (gateway.admission.maxEstimatedTotalTokens == some 0)
    "gateway.admission.max_estimated_total_tokens" ++
  rejectZero (gateway.admission.retryAfterSeconds == 0) "gateway.admission.retry_after_seconds" ++
  validateModelAliases gateway.modelAliases

def validateStorageConfig (storage : StorageConfig) : List String :=
  reject (storage.enabled && isBlank storage.databaseUrl)
    "storage.database_url must not be empty when storage is enabled" ++
  reject (storage.enabled && storage.retentionDays == 0)
    "storage.retention_days must be greater than 0 when storage is enabled"

/-! ## Model pools -/

/-- What the pools are checked against. -/
structure PoolSetting where
  providerNames : Finset String
  providerModels : Finset String
  modelAliases : OrdMap String String

namespace PoolSetting

/-- The checks of one member. -/
def memberErrors (c : PoolSetting) (poolName member : String) : List String :=
  let memberName := trimmed member
  if memberName = "" then
    ["model pool `" ++ poolName ++ "` must not contain empty member names"]
  else
    reject (memberName ∉ c.providerNames)
      ("model pool `" ++ poolName ++ "` member `" ++ memberName ++
        "` must reference a configured provider")

/-- The loop over the aliases of a pool.  `seen` are the public names so far. -/
def aliasErrors (c : PoolSetting) (poolName : String) (seen : Finset String) :
    List String → List String × Finset String
  | [] => ([], seen)
  | name :: rest =>
      let aliasName := trimmed name
      if aliasName = "" then
        let (errors, seen) := c.aliasErrors poolName seen rest
        (("model pool `" ++ poolName ++ "` must not contain empty aliases") :: errors, seen)
      else
        let errors :=
          reject (aliasName ∈ c.providerModels)
            ("model pool `" ++ poolName ++ "` alias `" ++ aliasName ++
              "` conflicts with configured provider model `" ++ aliasName ++ "`") ++
          reject (c.modelAliases.contains aliasName)
            ("model pool `" ++ poolName ++ "` alias `" ++ aliasName ++
              "` conflicts with gateway.model_aliases key `" ++ aliasName ++ "`") ++
          reject (aliasName ∈ seen)
            ("model pool public model ID `" ++ aliasName ++ "` is defined more than once")
        let (later, seen) := c.aliasErrors poolName (insert aliasName seen) rest
        (errors ++ later, seen)

/-- The checks of a pool whose name is neither empty nor taken. -/
def poolErrors (c : PoolSetting) (seen : Finset String) (pool : ModelPoolConfig) :
    List String × Finset String :=
  let poolName := trimmed pool.name
  let errors :=
    reject (poolName ∈ c.providerModels)
      ("model pool `" ++ poolName ++ "` conflicts with configured provider model `" ++
        poolName ++ "`") ++
    reject (c.modelAliases.contains poolName)
      ("model pool `" ++ poolName ++ "` conflicts with gateway.model_aliases key `" ++
        poolName ++ "`") ++
    reject (poolName ∈ seen)
      ("model pool public model ID `" ++ poolName ++ "` is defined more than once") ++
    reject pool.members.isEmpty
      ("model pool `" ++ poolName ++ "` must include at least one member provider") ++
    rejectZero (pool.maxInFlight == some 0) ("model pool `" ++ poolName ++ "` max_in_flight") ++
    pool.members.flatMap (c.memberErrors poolName)
  let (later, seen) := c.aliasErrors poolName (insert poolName seen) pool.aliases
  (errors ++ later, seen)

/-- `validate_model_pools`: the errors and the public names. -/
def validateModelPools (c : PoolSetting) (names seen : Finset String) :
    List ModelPoolConfig → List String × Finset String
  | [] => ([], seen)
  | pool :: rest =>
      let poolName := trimmed pool.name
      if poolName = "" then
        let (errors, seen) := c.validateModelPools names seen rest
        ("model_pools entries must have a non-empty name" :: errors, seen)
      else if poolName ∈ names then
        let (errors, seen) := c.validateModelPools names seen rest
        (("duplicate model pool name `" ++ poolName ++ "`") :: errors, seen)
      else
        let (errors, seen) := c.poolErrors seen pool
        let (later, seen) := c.validateModelPools (insert poolName names) seen rest
        (errors ++ later, seen)

end PoolSetting

/-! ## Providers -/

/-- The start of every error about a provider. -/
def ProviderConfig.complaint (provider : ProviderConfig) (text : String) : String :=
  "provider `" ++ provider.name ++ "` " ++ text

def validateProviderAuth (provider : ProviderConfig) : List String :=
  reject (provider.kind != .mock && provider.apiKeyEnv.all isBlank)
    (provider.complaint "api_key_env is required for real providers")

def validateProviderRetry (provider : ProviderConfig) (gateway : GatewayConfig) : List String :=
  rejectZero (provider.retryInitialBackoffMs == some 0)
    (provider.complaint "retry_initial_backoff_ms") ++
  rejectZero (provider.retryMaxBackoffMs == some 0)
    (provider.complaint "retry_max_backoff_ms") ++
  reject (provider.retryMaxBackoffMs.getD gateway.retry.maxBackoffMs <
      provider.retryInitialBackoffMs.getD gateway.retry.initialBackoffMs)
    (provider.complaint
      "retry_max_backoff_ms must be greater than or equal to retry_initial_backoff_ms")

def validateProviderBreaker (provider : ProviderConfig) (gateway : GatewayConfig) :
    List String :=
  rejectZero (provider.circuitBreakerFailureThreshold == some 0)
    (provider.complaint "circuit_breaker_failure_threshold") ++
  rejectZero (provider.circuitBreakerOpenDurationMs == some 0)
    (provider.complaint "circuit_breaker_open_duration_ms") ++
  rejectZero (provider.circuitBreakerHalfOpenMaxProbes == some 0)
    (provider.complaint "circuit_breaker_half_open_max_probes") ++
  rejectZero (provider.circuitBreakerFailureThreshold.getD
      gateway.circuitBreaker.failureThreshold == 0)
    (provider.complaint "effective circuit breaker failure threshold") ++
  rejectZero (provider.circuitBreakerOpenDurationMs.getD
      gateway.circuitBreaker.openDurationMs == 0)
    (provider.complaint "effective circuit breaker open duration") ++
  rejectZero (provider.circuitBreakerHalfOpenMaxProbes.getD
      gateway.circuitBreaker.halfOpenMaxProbes == 0)
    (provider.complaint "effective circuit breaker half-open probes")

/-- The checks of one provider behind the one of its name. -/
def validateProvider (gateway : GatewayConfig) (provider : ProviderConfig) : List String :=
  reject (isBlank provider.model) (provider.complaint "model must not be empty") ++
  rejectZero (provider.priority == 0) (provider.complaint "priority") ++
  reject (!(0 ≤ provider.failureRate && provider.failureRate ≤ 1))
    (provider.complaint "failure_rate must be between 0.0 and 1.0") ++
  reject (provider.costPer1kInputTokens < 0)
    (provider.complaint "cost_per_1k_input_tokens must not be negative") ++
  reject (provider.costPer1kOutputTokens < 0)
    (provider.complaint "cost_per_1k_output_tokens must not be negative") ++
  reject (provider.baseUrl.any isBlank) (provider.complaint "base_url must not be empty") ++
  rejectZero (provider.timeoutMs == some 0) (provider.complaint "timeout_ms") ++
  rejectZero (provider.maxInFlight == some 0) (provider.complaint "max_in_flight") ++
  validateProviderAuth provider ++ validateProviderRetry provider gateway ++
  validateProviderBreaker provider gateway

/-- The loop over the providers.  `names` are the names so far. -/
def validateEachProvider (gateway : GatewayConfig) (names : Finset String) :
    List ProviderConfig → List String
  | [] => []
  | provider :: rest =>
      if isBlank provider.name then
        "provider name must not be empty" ::
          (validateProvider gateway provider ++ validateEachProvider gateway names rest)
      else
        reject (provider.name ∈ names) ("duplicate provider name `" ++ provider.name ++ "`") ++
          (validateProvider gateway provider ++
            validateEachProvider gateway (insert provider.name names) rest)

namespace AppConfig

/-- The sets that `validate_providers` makes of the providers. -/
def poolSetting (config : AppConfig) : PoolSetting where
  providerNames := (config.providers.map (·.name)).toFinset
  providerModels := (config.providers.map (·.model)).toFinset
  modelAliases := config.gateway.modelAliases

/-- The errors about the pools, and the public names of the pools. -/
def checkedPools (config : AppConfig) : List String × Finset String :=
  config.poolSetting.validateModelPools ∅ ∅ config.modelPools

/-- The loop over the targets of the aliases. -/
def aliasTargetErrors (config : AppConfig) : List String :=
  config.gateway.modelAliases.values.flatMap fun target =>
    reject (!isBlank target && !decide (target ∈ config.poolSetting.providerModels ∨
        target ∈ config.checkedPools.2))
      ("gateway.model_aliases target `" ++ target ++
        "` must match a configured provider model or model pool")

def validateProviders (config : AppConfig) : List String :=
  reject config.providers.isEmpty "at least one provider must be configured" ++
  config.checkedPools.1 ++ config.aliasTargetErrors ++
  validateEachProvider config.gateway ∅ config.providers

def errors (config : AppConfig) : List String :=
  rejectZero (config.server.port == 0) "server.port" ++
  rejectZero (config.server.shutdownGracePeriodMs == 0) "server.shutdown_grace_period_ms" ++
  validateGatewayConfig config.gateway ++ validateTelemetryConfig config.telemetry ++
  validateCacheConfig config.cache ++ validateStorageConfig config.storage ++
  config.validateProviders

def validate (config : AppConfig) : Except ConfigError Unit :=
  if config.errors.isEmpty then .ok ()
  else .error (.validation ("; ".intercalate config.errors))

end AppConfig
end RustyGate
