/-
The part of the application's state that routing reads, built from a configuration
(`AppState::from_config` in `src/app/build.rs` and `AppState::from_providers` in
`src/app/state.rs`).

The environment is a function from the names of its variables.  The connections to storage
and to Redis, which are opened on the way, are taken to succeed.
-/
import RustyGate.Config.Validate
import RustyGate.Routes.Shared
import RustyGate.Routing.Strategy

namespace RustyGate

open Text

inductive AppStateInitError where
  | gatewayConfig (message : String)
  | providerConfig (provider message : String)
  deriving DecidableEq, Repr

def ProviderKind.asStr : ProviderKind → String
  | mock => "mock"
  | openaiCompatible => "openai_compatible"
  | anthropic => "anthropic"

def ProviderConfig.entry (provider : ProviderConfig) : ProviderEntry where
  name := provider.name
  model := provider.model
  pricing := ⟨provider.costPer1kInputTokens, provider.costPer1kOutputTokens⟩
  priority := provider.priority

/-- The provider itself.  A real one needs its key from the environment. -/
def ProviderConfig.build (env : String → Option String) (provider : ProviderConfig) :
    Except AppStateInitError ProviderEntry :=
  if provider.kind = .mock then .ok provider.entry
  else
    match provider.apiKeyEnv with
    | none =>
        .error (.providerConfig provider.name
          ("missing `api_key_env` for " ++ provider.kind.asStr ++ " provider"))
    | some apiKeyEnv =>
        match env apiKeyEnv with
        | none =>
            .error (.providerConfig provider.name
              ("environment variable `" ++ apiKeyEnv ++ "` is not set for provider API key"))
        | some _ => .ok provider.entry

def buildProviders (env : String → Option String) :
    List ProviderConfig → Except AppStateInitError (List ProviderEntry)
  | [] => .ok []
  | provider :: rest => do
      let entry ← provider.build env
      let entries ← buildProviders env rest
      return entry :: entries

/-- The key of the gateway, which storage replaces by its own keys. -/
def gatewayApiKey (env : String → Option String) (config : AppConfig) :
    Except AppStateInitError Unit :=
  if config.storage.enabled then .ok ()
  else
    match env config.gateway.apiKeyEnv with
    | none =>
        .error (.gatewayConfig ("environment variable `" ++ config.gateway.apiKeyEnv ++
          "` is not set for gateway API key"))
    | some key =>
        if isBlank key then
          .error (.gatewayConfig ("environment variable `" ++ config.gateway.apiKeyEnv ++
            "` for gateway API key must not be empty"))
        else .ok ()

structure RoutingState where
  providers : List ProviderEntry
  modelAliases : OrdMap String String
  modelPools : ModelPoolIndex
  routingPolicy : RoutingPolicy

namespace RoutingState

/-- The providers in the order of their priorities. -/
def byPriority (providers : List ProviderEntry) : List ProviderEntry :=
  providers.mergeSort fun left right => left.priority ≤ right.priority

def fromConfig (env : String → Option String) (config : AppConfig) :
    Except AppStateInitError RoutingState := do
  let providers ← buildProviders env config.providers
  gatewayApiKey env config
  return {
    providers := byPriority providers
    modelAliases := config.gateway.modelAliases
    modelPools := .fromConfigs config.modelPools
    routingPolicy := config.gateway.routingPolicy }

/-- The state of the routes with these aliases and pools. -/
def applyTo (routing : RoutingState) (state : AppState) : AppState :=
  { state with
    modelAliases := routing.modelAliases.get?
    poolForPublicModel := fun model =>
      (routing.modelPools.poolForPublicModel model).map ModelPool.name }

/-- The candidates for a model, with the load and the circuits as they are. -/
def candidates (routing : RoutingState) (metricsSnapshot : Option MetricsSnapshot)
    (resilience : Option ResilienceRegistry) (model : String) : List ProviderEntry :=
  candidateProviders routing.providers (some model) routing.routingPolicy metricsSnapshot
    routing.modelPools resilience

/-- The model that a requested one stands for. -/
def resolve (routing : RoutingState) (model : String) : String :=
  resolveModelAlias routing.modelAliases.get? model

end RoutingState

theorem ProviderConfig.build_eq_ok {env : String → Option String} {provider : ProviderConfig}
    {entry : ProviderEntry} (h : provider.build env = .ok entry) : entry = provider.entry := by
  unfold ProviderConfig.build at h
  split at h
  · exact (Except.ok.inj h).symm
  · split at h
    · exact absurd h (by simp)
    · split at h
      · exact absurd h (by simp)
      · exact (Except.ok.inj h).symm

theorem buildProviders_eq_ok {env : String → Option String} {providers : List ProviderConfig}
    {entries : List ProviderEntry} (h : buildProviders env providers = .ok entries) :
    entries = providers.map ProviderConfig.entry := by
  induction providers generalizing entries with
  | nil => exact (Except.ok.inj h).symm
  | cons provider rest ih =>
      unfold buildProviders at h
      cases hentry : provider.build env with
      | error e =>
          rw [hentry] at h
          exact absurd h (by simp [bind, Except.bind])
      | ok entry =>
          cases hrest : buildProviders env rest with
          | error e =>
              rw [hentry, hrest] at h
              exact absurd h (by simp [bind, Except.bind])
          | ok later =>
              rw [hentry, hrest] at h
              rw [← Except.ok.inj h, ProviderConfig.build_eq_ok hentry, ih hrest, List.map_cons]

end RustyGate
