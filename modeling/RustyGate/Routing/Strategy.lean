/-
The order in which providers are tried (`src/routing/strategy.rs`).

A latency without data is the infinite one, so scores are rational numbers with a top.
The comparison of two candidates is by the score of the policy, then by the priority and
then by the name, and the sort is stable.
-/
import RustyGate.Collections.Sorting
import RustyGate.Providers.Provider
import RustyGate.Routing.ModelPools
import RustyGate.Routing.Resilience
import RustyGate.Telemetry.Snapshot
import Mathlib.Algebra.Order.Monoid.WithTop
import Mathlib.Data.Prod.Lex
import Mathlib.Data.String.Basic

namespace RustyGate

def inFlightLatencyPenaltyMs : ℚ := 25
def queuePressurePenaltyMs : ℚ := 10
def recentErrorPenaltyMs : ℚ := 250
def halfOpenCircuitPenaltyMs : ℚ := 10000
def openCircuitPenaltyMs : ℚ := 1000000

def effectiveRoutingPolicy (requestedModel : Option String) (routingPolicy : RoutingPolicy)
    (modelPools : ModelPoolIndex) : RoutingPolicy :=
  ((requestedModel.bind modelPools.poolForPublicModel).bind ModelPool.routingPolicy).getD
    routingPolicy

namespace ProviderEntry

def cost (entry : ProviderEntry) : ℚ :=
  entry.pricing.costPer1kInputTokens + entry.pricing.costPer1kOutputTokens

/-- `provider_latency_ms`. -/
def latencyMs (entry : ProviderEntry) (metricsSnapshot : Option MetricsSnapshot) : WithTop ℚ :=
  let positive (latency : Option ℚ) := latency.filter fun latency => 0 < latency
  let known := metricsSnapshot.bind fun snapshot =>
    (positive (snapshot.p95LatencyMsByProvider entry.name)).or
      (positive (snapshot.avgLatencyMsByProvider entry.name))
  (known.map fun latency => (latency : WithTop ℚ)).getD ⊤

end ProviderEntry

def recentErrorCount (snapshot : MetricsSnapshot) (provider : String) : Nat :=
  ((snapshot.recentProviderErrorsByProviderAndCategory provider).map fun categories =>
    (categories.entries.map Sigma.snd).sum).getD 0

/-- What the load and the recent errors of a provider add to its score. -/
def MetricsSnapshot.penalty (snapshot : MetricsSnapshot) (provider : String) : ℚ :=
  (snapshot.inFlightRequestsByProvider.count provider : ℚ) * inFlightLatencyPenaltyMs +
    (snapshot.queuePressureByProvider provider).getD 0 * queuePressurePenaltyMs +
    (recentErrorCount snapshot provider : ℚ) * recentErrorPenaltyMs

/-- What the state of a provider's circuit adds. -/
def circuitPenalty : CircuitState → ℚ
  | .closed => 0
  | .halfOpen => halfOpenCircuitPenaltyMs
  | .opened => openCircuitPenaltyMs

/-- `provider_latency_score`. -/
def ProviderEntry.latencyScore (entry : ProviderEntry) (metricsSnapshot : Option MetricsSnapshot)
    (resilience : Option ResilienceRegistry) : WithTop ℚ :=
  entry.latencyMs metricsSnapshot +
    ((metricsSnapshot.map fun snapshot => snapshot.penalty entry.name).getD 0 : ℚ) +
    ((resilience.map fun registry => circuitPenalty (registry.circuitState entry.name)).getD 0 : ℚ)

/-- The number that a policy compares first; for two of the policies there is none. -/
def ProviderEntry.score (routingPolicy : RoutingPolicy) (metricsSnapshot : Option MetricsSnapshot)
    (resilience : Option ResilienceRegistry) (entry : ProviderEntry) : WithTop ℚ :=
  match routingPolicy with
  | .priority | .prefixAffinity => 0
  | .cost => entry.cost
  | .latency => entry.latencyScore metricsSnapshot resilience

def candidateOrder (routingPolicy : RoutingPolicy) (metricsSnapshot : Option MetricsSnapshot)
    (resilience : Option ResilienceRegistry) (left right : ProviderEntry) : Bool :=
  let score := ProviderEntry.score routingPolicy metricsSnapshot resilience
  if score left ≠ score right then score left < score right
  else if left.priority ≠ right.priority then left.priority < right.priority
  else left.name ≤ right.name

/-- Whether a provider can serve the model: as a member of the pool with this id, or by its
own model if there is no such pool. -/
def ProviderEntry.eligible (modelPools : ModelPoolIndex) (requestedModel : String)
    (entry : ProviderEntry) : Bool :=
  match modelPools.poolForPublicModel requestedModel with
  | some pool => entry.name ∈ pool.members
  | none => entry.supportsModel requestedModel

def candidateProvidersForPolicy (providers : List ProviderEntry) (requestedModel : Option String)
    (routingPolicy : RoutingPolicy) (metricsSnapshot : Option MetricsSnapshot)
    (modelPools : ModelPoolIndex) (resilience : Option ResilienceRegistry) :
    List ProviderEntry :=
  match requestedModel with
  | none => []
  | some requestedModel =>
      (providers.filter (ProviderEntry.eligible modelPools requestedModel)).mergeSort
        (candidateOrder routingPolicy metricsSnapshot resilience)

def candidateProviders (providers : List ProviderEntry) (requestedModel : Option String)
    (routingPolicy : RoutingPolicy) (metricsSnapshot : Option MetricsSnapshot)
    (modelPools : ModelPoolIndex) (resilience : Option ResilienceRegistry) :
    List ProviderEntry :=
  candidateProvidersForPolicy providers requestedModel
    (effectiveRoutingPolicy requestedModel routingPolicy modelPools) metricsSnapshot modelPools
    resilience

variable {providers : List ProviderEntry} {model : String} {routingPolicy : RoutingPolicy}
  {metricsSnapshot : Option MetricsSnapshot} {modelPools : ModelPoolIndex}
  {resilience : Option ResilienceRegistry}

theorem candidateOrder_byKey (policy : RoutingPolicy) :
    ByKey (candidateOrder policy metricsSnapshot resilience) fun entry =>
      toLex (entry.score policy metricsSnapshot resilience,
        toLex (entry.priority.toNat, entry.name)) := by
  intro left right
  simp only [candidateOrder, Prod.Lex.toLex_le_toLex]
  by_cases hscore : left.score policy metricsSnapshot resilience =
      right.score policy metricsSnapshot resilience
  · by_cases hpriority : left.priority = right.priority
    · simp [hscore, hpriority]
    · simp [hscore, hpriority, UInt32.lt_iff_toNat_lt, UInt32.toNat_inj]
  · simp [hscore]

/-- Whatever the order, the candidates are the providers that can serve the model. -/
theorem candidateProviders_perm :
    (candidateProviders providers (some model) routingPolicy metricsSnapshot modelPools
      resilience).Perm (providers.filter (ProviderEntry.eligible modelPools model)) :=
  List.mergeSort_perm _ _

end RustyGate
