/-
Where an accepted configuration sends a request.

Public ids always lead to the pool for which they are written.  The members of a pool and
the targets of aliases, however, are read without the white space around them by the
validator and as they are written by the router, so a configuration routes as the validator
understands it exactly if this makes no difference (`routes_iff`).
-/
import RustyGate.App.Build
import RustyGate.Config.Accepted

namespace RustyGate

open Text

namespace RoutingState

variable {env : String → Option String} {config : AppConfig} {routing : RoutingState}
  {metricsSnapshot : Option MetricsSnapshot} {resilience : Option ResilienceRegistry}
  {entry : ProviderEntry} {model id : String} {pool : ModelPoolConfig}

/-- The state that comes from a configuration. -/
structure Built (config : AppConfig) (routing : RoutingState) : Prop where
  providers : routing.providers.Perm (config.providers.map ProviderConfig.entry)
  modelAliases : routing.modelAliases = config.gateway.modelAliases
  modelPools : routing.modelPools = .fromConfigs config.modelPools

theorem built_of_fromConfig (h : fromConfig env config = .ok routing) : routing.Built config := by
  unfold fromConfig at h
  cases hproviders : buildProviders env config.providers with
  | error e =>
      rw [hproviders] at h
      exact absurd h (by simp [bind, Except.bind])
  | ok providers =>
      cases hkey : gatewayApiKey env config with
      | error e =>
          rw [hproviders, hkey] at h
          exact absurd h (by simp [bind, Except.bind])
      | ok done =>
          rw [hproviders, hkey] at h
          rw [← Except.ok.inj h, buildProviders_eq_ok hproviders]
          exact ⟨List.mergeSort_perm _ _, rfl, rfl⟩

theorem Built.mem_providers (h : routing.Built config) :
    entry ∈ routing.providers ↔ ∃ provider ∈ config.providers, provider.entry = entry := by
  rw [h.providers.mem_iff, List.mem_map]

/-! ## The candidates -/

theorem mem_candidates :
    entry ∈ routing.candidates metricsSnapshot resilience model ↔
      entry ∈ routing.providers ∧ entry.eligible routing.modelPools model = true := by
  unfold candidates
  rw [candidateProviders_perm.mem_iff, List.mem_filter]

theorem eligible_of_pool (haccepted : config.Accepted) (h : routing.Built config)
    (hpool : pool ∈ config.modelPools) (hid : id ∈ pool.publicIds) :
    entry.eligible routing.modelPools id = decide (entry.name ∈ pool.members) := by
  have hindex : routing.modelPools.poolForPublicModel id = some (.fromConfig pool) := by
    rw [h.modelPools, ModelPoolIndex.poolForPublicModel_eq_some haccepted.distinctIds]
    exact ⟨pool, hpool, hid, rfl⟩
  unfold ProviderEntry.eligible
  rw [hindex]
  exact decide_eq_decide.mpr List.mem_toFinset

theorem eligible_of_no_pool (haccepted : config.Accepted) (h : routing.Built config)
    (hno : ∀ pool ∈ config.modelPools, model ∉ pool.publicIds) :
    entry.eligible routing.modelPools model = (entry.model == model) := by
  have hindex : routing.modelPools.poolForPublicModel model = none := by
    rw [h.modelPools, ModelPoolIndex.poolForPublicModel_eq_none haccepted.distinctIds]
    exact hno
  unfold ProviderEntry.eligible
  rw [hindex]
  rfl

/-- The target of an alias is what its name stands for. -/
theorem resolve_of_alias {name target : String}
    (h : routing.modelAliases.get? name = some target) : routing.resolve name = target := by
  unfold resolve resolveModelAlias
  rw [h]
  rfl

theorem resolve_of_no_alias {name : String} (h : routing.modelAliases.get? name = none) :
    routing.resolve name = name := by
  unfold resolve resolveModelAlias
  rw [h]
  rfl

/-! ## Routing as the validator reads the configuration -/

/-- Every public id leads to its pool and to the providers listed there, and every alias
leads to some provider. -/
def Routes (config : AppConfig) (routing : RoutingState) : Prop :=
  (∀ pool ∈ config.modelPools, ∀ id ∈ pool.publicIds,
    routing.modelPools.poolForPublicModel id = some (.fromConfig pool) ∧
      ∀ metricsSnapshot resilience,
        (routing.candidates metricsSnapshot resilience id).Perm
            (routing.providers.filter fun entry => entry.name ∈ pool.members.map trimmed) ∧
          routing.candidates metricsSnapshot resilience id ≠ []) ∧
    ∀ name ∈ config.gateway.modelAliases.keys, ∀ metricsSnapshot resilience,
      routing.candidates metricsSnapshot resilience (routing.resolve name) ≠ []

end RoutingState

/-- The white space around members and targets makes no difference. -/
structure AppConfig.AsWritten (config : AppConfig) : Prop where
  members : ∀ pool ∈ config.modelPools, ∀ provider ∈ config.providers,
    provider.name ∈ pool.members ↔ provider.name ∈ pool.members.map trimmed
  targets : ∀ target ∈ config.gateway.modelAliases.values,
    (∃ provider ∈ config.providers, provider.model = target) ∨
      ∃ pool ∈ config.modelPools, target ∈ pool.publicIds

namespace RoutingState

variable {config : AppConfig} {routing : RoutingState} {pool : ModelPoolConfig} {id : String}

section Built

variable (h : routing.Built config) (haccepted : config.Accepted)

include h haccepted

theorem Built.candidates_perm (hwritten : config.AsWritten) (hpool : pool ∈ config.modelPools)
    (hid : id ∈ pool.publicIds) (metricsSnapshot : Option MetricsSnapshot)
    (resilience : Option ResilienceRegistry) :
    (routing.candidates metricsSnapshot resilience id).Perm
      (routing.providers.filter fun entry => entry.name ∈ pool.members.map trimmed) := by
  refine candidateProviders_perm.trans (List.Perm.of_eq (List.filter_congr fun entry hentry => ?_))
  obtain ⟨provider, hprovider, rfl⟩ := h.mem_providers.mp hentry
  rw [eligible_of_pool haccepted h hpool hid]
  exact decide_eq_decide.mpr (hwritten.members pool hpool provider hprovider)

/-- A pool has a member, and the validator has found the member among the providers. -/
theorem Built.listed_ne_nil (hpool : pool ∈ config.modelPools) :
    (routing.providers.filter fun entry => entry.name ∈ pool.members.map trimmed) ≠ [] := by
  obtain ⟨hnonempty, hknown⟩ := haccepted.members pool hpool
  obtain ⟨member, hmember⟩ := List.exists_mem_of_ne_nil _ hnonempty
  have hname : trimmed member ∈ (config.providers.map ProviderConfig.name).toFinset :=
    hknown member hmember
  obtain ⟨provider, hprovider, hname⟩ := List.mem_map.mp (List.mem_toFinset.mp hname)
  apply List.ne_nil_of_mem
  apply List.mem_filter.mpr
  refine ⟨h.mem_providers.mpr ⟨provider, hprovider, rfl⟩, decide_eq_true ?_⟩
  show provider.name ∈ pool.members.map trimmed
  rw [hname]
  exact List.mem_map_of_mem hmember

theorem Built.routes (hwritten : config.AsWritten) : routing.Routes config := by
  have hpools : ∀ pool ∈ config.modelPools, ∀ id ∈ pool.publicIds,
      ∀ metricsSnapshot resilience, routing.candidates metricsSnapshot resilience id ≠ [] := by
    intro pool hpool id hid metricsSnapshot resilience hempty
    have hperm := h.candidates_perm haccepted hwritten hpool hid metricsSnapshot resilience
    rw [hempty] at hperm
    exact h.listed_ne_nil haccepted hpool hperm.symm.eq_nil
  constructor
  · intro pool hpool id hid
    refine ⟨?_, fun metricsSnapshot resilience =>
      ⟨h.candidates_perm haccepted hwritten hpool hid metricsSnapshot resilience,
        hpools pool hpool id hid metricsSnapshot resilience⟩⟩
    rw [h.modelPools, ModelPoolIndex.poolForPublicModel_eq_some haccepted.distinctIds]
    exact ⟨pool, hpool, hid, rfl⟩
  · intro name hname metricsSnapshot resilience
    obtain ⟨target, htarget⟩ := OrdMap.mem_keys.mp hname
    have hvalue : target ∈ config.gateway.modelAliases.values :=
      List.mem_map.mpr ⟨(name, target), OrdMap.mem_entries.mpr htarget, rfl⟩
    rw [resolve_of_alias (h.modelAliases ▸ htarget)]
    by_cases hpool : ∃ pool ∈ config.modelPools, target ∈ pool.publicIds
    · obtain ⟨pool, hpool, hid⟩ := hpool
      exact hpools pool hpool target hid metricsSnapshot resilience
    · obtain ⟨provider, hprovider, hmodel⟩ := (hwritten.targets target hvalue).resolve_right hpool
      have hno : ∀ pool ∈ config.modelPools, target ∉ pool.publicIds :=
        fun pool hmem hid => hpool ⟨pool, hmem, hid⟩
      apply List.ne_nil_of_mem
      apply mem_candidates.mpr
      refine ⟨h.mem_providers.mpr ⟨provider, hprovider, rfl⟩, ?_⟩
      rw [eligible_of_no_pool haccepted h hno]
      exact beq_iff_eq.mpr hmodel

theorem Built.asWritten (hroutes : routing.Routes config) : config.AsWritten := by
  constructor
  case members =>
    intro pool hpool provider hprovider
    have hname := ModelPoolIndex.name_mem_publicIds pool
    have hentry : provider.entry ∈ routing.providers :=
      h.mem_providers.mpr ⟨provider, hprovider, rfl⟩
    have hperm := ((hroutes.1 pool hpool pool.name hname).2 none none).1
    have hiff := hperm.mem_iff (a := provider.entry)
    rw [mem_candidates, eligible_of_pool haccepted h hpool hname, List.mem_filter,
      decide_eq_true_iff, decide_eq_true_iff] at hiff
    exact and_congr_right_iff.mp hiff hentry
  case targets =>
    intro target htarget
    by_contra hneither
    obtain ⟨hmodel, hpool⟩ := not_or.mp hneither
    obtain ⟨⟨name, found⟩, hfound, rfl⟩ := List.mem_map.mp htarget
    have hget := OrdMap.mem_entries.mp hfound
    have hne := hroutes.2 name (OrdMap.mem_keys.mpr ⟨found, hget⟩) none none
    rw [resolve_of_alias (h.modelAliases ▸ hget)] at hne
    obtain ⟨entry, hentry⟩ := List.exists_mem_of_ne_nil _ hne
    obtain ⟨hprovider, heligible⟩ := mem_candidates.mp hentry
    obtain ⟨provider, hmem, rfl⟩ := h.mem_providers.mp hprovider
    have hno : ∀ pool ∈ config.modelPools, found ∉ pool.publicIds :=
      fun pool hmem hid => hpool ⟨pool, hmem, hid⟩
    rw [eligible_of_no_pool haccepted h hno] at heligible
    exact hmodel ⟨provider, hmem, beq_iff_eq.mp heligible⟩

end Built

/-- An accepted configuration routes as the validator reads it exactly if the white space
around members and targets makes no difference. -/
theorem routes_iff {env : String → Option String} (hvalid : config.validate = .ok ())
    (hbuild : fromConfig env config = .ok routing) :
    routing.Routes config ↔ config.AsWritten := by
  have haccepted := AppConfig.accepted_of_validate hvalid
  have hbuilt := built_of_fromConfig hbuild
  exact ⟨hbuilt.asWritten haccepted, hbuilt.routes haccepted⟩

/-- Mock providers by their names and models. -/
def mockConfig (providers : List (String × String)) (aliases : OrdMap String String)
    (pools : List ModelPoolConfig) : AppConfig where
  server := { port := 8080 }
  gateway := {
    defaultTimeoutMs := 30000
    maxRetries := 1
    apiKeyEnv := "GATEWAY_API_KEY"
    modelAliases := aliases }
  providers := providers.map fun (name, model) =>
    { name, kind := .mock, model, priority := 1
      costPer1kInputTokens := 0, costPer1kOutputTokens := 0 }
  modelPools := pools

/-- The state that `mockConfig` leads to. -/
def mockRouting (providers : List (String × String)) (aliases : OrdMap String String)
    (pools : List ModelPoolConfig) : RoutingState where
  providers := byPriority (providers.map fun (name, model) => ⟨name, model, ⟨0, 0⟩, 1⟩)
  modelAliases := aliases
  modelPools := .fromConfigs pools
  routingPolicy := .priority

theorem fromConfig_mockConfig (providers : List (String × String))
    (aliases : OrdMap String String) (pools : List ModelPoolConfig) :
    fromConfig (fun _ => some "key") (mockConfig providers aliases pools) =
      .ok (mockRouting providers aliases pools) := by
  have hbuild :
      buildProviders (fun _ => some "key") (mockConfig providers aliases pools).providers =
        .ok (providers.map fun (name, model) => ⟨name, model, ⟨0, 0⟩, 1⟩) := by
    induction providers with
    | nil => rfl
    | cons p rest ih =>
        show (do
          let entry ← Except.ok (⟨p.1, p.2, ⟨0, 0⟩, 1⟩ : ProviderEntry)
          let entries ← buildProviders _ (mockConfig rest aliases pools).providers
          return entry :: entries) = _
        rw [ih]
        rfl
  unfold fromConfig
  rw [hbuild]
  rfl

/-- One provider in one pool, for which there is an alias. -/
def onePool (member : String) : AppConfig :=
  mockConfig [("p1", "m")] (OrdMap.empty.insert "fast" "pool")
    [{ name := "pool", members := [member] }]

def onePoolRouting (member : String) : RoutingState :=
  mockRouting [("p1", "m")] (OrdMap.empty.insert "fast" "pool")
    [{ name := "pool", members := [member] }]

theorem fromConfig_onePool (member : String) :
    fromConfig (fun _ => some "key") (onePool member) = .ok (onePoolRouting member) :=
  fromConfig_mockConfig _ _ _

theorem validate_onePool :
    (onePool "p1").validate = .ok () ∧ (onePool " p1").validate = .ok () := by
  decide +kernel

theorem routes_iff_onePool : (onePoolRouting "p1").Routes (onePool "p1") := by
  refine (routes_iff validate_onePool.1 (fromConfig_onePool "p1")).mpr ⟨?_, ?_⟩
  · have hread : trimmed "p1" = "p1" := by decide +kernel
    simp [onePool, mockConfig, hread]
  · intro target htarget
    exact .inr ⟨_, List.mem_cons_self, htarget⟩

/-- A blank before the name of the member passes the validator, and then the pool is
empty. -/
theorem padded_member_unreachable :
    ¬∀ (env : String → Option String) (config : AppConfig) (routing : RoutingState),
      config.validate = .ok () → fromConfig env config = .ok routing →
        routing.Routes config := by
  intro hall
  have hroutes := hall _ _ _ validate_onePool.2 (fromConfig_onePool " p1")
  have hbuilt := built_of_fromConfig (fromConfig_onePool " p1")
  have hwritten := hbuilt.asWritten (AppConfig.accepted_of_validate validate_onePool.2) hroutes
  have hread : trimmed " p1" = "p1" := by decide +kernel
  have hmember := hwritten.members _ List.mem_cons_self _ List.mem_cons_self
  simp [hread] at hmember

end RoutingState
end RustyGate
