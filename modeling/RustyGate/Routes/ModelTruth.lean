/-
What the list of models says about routing.

In an accepted configuration without white space around the names in its pools, the ids of
the list are the models of providers that are not hidden, the public ids of the pools and
the names of the aliases (`mem_ids_listing`).  The list and the router decide separately
which providers belong to an id.
-/
import RustyGate.Routes.Models

namespace RustyGate

open Text

theorem AppConfig.PoolsTidy.asWritten {config : AppConfig} (htidy : config.PoolsTidy)
    (haccepted : config.Accepted) : config.AsWritten where
  members := by
    intro pool hpool provider _
    have hread : pool.members.map trimmed = pool.members :=
      (List.map_congr_left (htidy.members pool hpool)).trans (List.map_id' _)
    rw [hread]
  targets := by
    intro target htarget
    rcases haccepted.targets target htarget with hmodel | hread
    · exact .inl (List.mem_map.mp (List.mem_toFinset.mp hmodel))
    · obtain ⟨pool, hpool, hread⟩ := List.mem_flatMap.mp hread
      obtain ⟨id, hid, rfl⟩ := List.mem_map.mp hread
      rw [htidy.ids pool hpool id hid]
      exact .inr ⟨pool, hpool, hid⟩

/-- No alias gives another meaning to the model of a provider. -/
def AppConfig.AliasesApart (config : AppConfig) : Prop :=
  ∀ entry ∈ config.gateway.modelAliases.entries,
    (∃ provider ∈ config.providers, provider.model = entry.1) → entry.2 = entry.1

/-- The model of every provider is the name of an alias or the model of a provider outside
the pools. -/
def AppConfig.ModelsPublic (config : AppConfig) : Prop :=
  ∀ provider ∈ config.providers,
    provider.model ∈ config.gateway.modelAliases.keys ∨
      ∃ other ∈ config.providers, other.model = provider.model ∧
        ∀ pool ∈ config.modelPools, other.name ∉ pool.members

namespace RoutingState

variable {config : AppConfig} {routing : RoutingState} {model id : String}
  {providers : Finset String} {pool : ModelPoolConfig}

/-- The configuration that a state comes from, as it is assumed here. -/
structure Setting (config : AppConfig) (routing : RoutingState) : Prop where
  accepted : config.Accepted
  built : routing.Built config
  tidy : config.PoolsTidy

namespace Setting

variable (h : Setting config routing)

include h

theorem pool_id_free (hpool : pool ∈ config.modelPools) (hid : id ∈ pool.publicIds) :
    (∀ provider ∈ config.providers, provider.model ≠ id) ∧
      id ∉ config.gateway.modelAliases.keys := by
  obtain ⟨hmodels, hkeys⟩ := h.accepted.trimmed_free hpool hid
  rw [h.tidy.ids pool hpool id hid] at hmodels hkeys
  refine ⟨fun provider hprovider heq => hmodels ?_, hkeys⟩
  exact List.mem_toFinset.mpr (List.mem_map.mpr ⟨provider, hprovider, heq⟩)

theorem member_known (hpool : pool ∈ config.modelPools) {member : String}
    (hmember : member ∈ pool.members) :
    ∃ provider ∈ config.providers, provider.name = member := by
  have hknown := (h.accepted.members pool hpool).2 member hmember
  rw [h.tidy.members pool hpool member hmember] at hknown
  exact List.mem_map.mp (List.mem_toFinset.mp hknown)

theorem mem_publicModelIds :
    id ∈ routing.modelPools.publicModelIds ↔ ∃ pool ∈ config.modelPools, id ∈ pool.publicIds := by
  rw [h.built.modelPools, ModelPoolIndex.mem_publicModelIds h.accepted.distinctIds]

theorem providersForModelId (hpool : pool ∈ config.modelPools) (hid : id ∈ pool.publicIds) :
    routing.modelPools.providersForModelId id = some pool.members.toFinset.sort := by
  have hindex : routing.modelPools.poolForPublicModel id = some (.fromConfig pool) := by
    rw [h.built.modelPools, ModelPoolIndex.poolForPublicModel_eq_some h.accepted.distinctIds]
    exact ⟨pool, hpool, hid, rfl⟩
  unfold ModelPoolIndex.providersForModelId ModelPoolIndex.membersForPublicModel
  rw [hindex]
  rfl

/-- The providers of a model, read off the entries of the configuration. -/
theorem get?_providersByModel :
    routing.providersByModel.get? model = some providers ↔
      (∃ provider ∈ config.providers, provider.model = model) ∧
        ∀ name, name ∈ providers ↔
          ∃ provider ∈ config.providers, provider.model = model ∧ provider.name = name := by
  have hentries : ∀ P : String → String → Prop,
      (∃ entry ∈ routing.providers, P entry.model entry.name) ↔
        ∃ provider ∈ config.providers, P provider.model provider.name := by
    intro P
    constructor
    · rintro ⟨entry, hentry, hP⟩
      obtain ⟨provider, hprovider, rfl⟩ := h.built.mem_providers.mp hentry
      exact ⟨provider, hprovider, hP⟩
    · rintro ⟨provider, hprovider, hP⟩
      exact ⟨provider.entry, h.built.mem_providers.mpr ⟨provider, hprovider, rfl⟩, hP⟩
  rw [providersByModel, OrdMap.get?_groupBy, hentries fun m _ => m = model]
  apply and_congr_right'
  apply forall_congr'
  intro name
  rw [hentries fun m n => m = model ∧ n = name]

theorem exists_direct {provider : ProviderConfig} (hprovider : provider ∈ config.providers)
    (hmodel : provider.model = model) :
    ∃ direct, routing.providersByModel.get? model = some direct := by
  have hentry : provider.entry ∈ routing.providers :=
    h.built.mem_providers.mpr ⟨provider, hprovider, rfl⟩
  exact Option.isSome_iff_exists.mp ((OrdMap.isSome_groupBy ProviderEntry.model
    ProviderEntry.name).mpr ⟨provider.entry, hentry, hmodel⟩)

/-- The target of an alias is a provider's model, or else the id of a pool. -/
theorem aliasProviders_cases {target : String}
    (htarget : target ∈ config.gateway.modelAliases.values) :
    (∃ direct, routing.providersByModel.get? target = some direct ∧
        routing.aliasProviders target = some direct.sort) ∨
      ∃ pool ∈ config.modelPools, target ∈ pool.publicIds ∧
        routing.aliasProviders target = some pool.members.toFinset.sort := by
  unfold aliasProviders
  cases hget : routing.providersByModel.get? target with
  | some direct => exact .inl ⟨direct, rfl, rfl⟩
  | none =>
      have hwritten := h.tidy.asWritten h.accepted
      rcases hwritten.targets target htarget with ⟨provider, hprovider, hmodel⟩ | ⟨pool, hpool, hid⟩
      · obtain ⟨direct, hdirect⟩ := h.exists_direct hprovider hmodel
        rw [hget] at hdirect
        exact absurd hdirect.symm (Option.some_ne_none _)
      · exact .inr ⟨pool, hpool, hid, h.providersForModelId hpool hid⟩

theorem extends_listing :
    routing.directListing.Extends
      (routing.modelPools.publicModelIds.map routing.poolResponse ++
        routing.modelAliases.entries.map routing.aliasResponse) routing.listing := by
  apply listing_extends
  · intro id hid
    obtain ⟨pool, hpool, hid⟩ := h.mem_publicModelIds.mp hid
    rw [h.providersForModelId hpool hid]
    exact Option.some_ne_none _
  · intro target htarget
    rw [h.built.modelAliases] at htarget
    rcases h.aliasProviders_cases htarget with ⟨direct, -, hproviders⟩ | ⟨pool, -, -, hproviders⟩
    · rw [hproviders]
      exact Option.some_ne_none _
    · rw [hproviders]
      exact Option.some_ne_none _

/-! ## The ids -/

theorem shouldHide_iff (hget : routing.providersByModel.get? model = some providers) :
    routing.shouldHideInternalModel model providers = true ↔ config.Hidden model := by
  obtain ⟨⟨first, hfirst, hmodel⟩, hproviders⟩ := h.get?_providersByModel.mp hget
  have hnonempty : providers.sort.isEmpty = false := by
    have hmem : first.name ∈ providers.sort :=
      (Finset.mem_sort _).mpr ((hproviders first.name).mpr ⟨first, hfirst, hmodel, rfl⟩)
    exact List.isEmpty_eq_false_iff.mpr (List.ne_nil_of_mem hmem)
  have hpool : ∀ name, routing.modelPools.isProviderInAnyPool name = true ↔
      ∃ pool ∈ config.modelPools, name ∈ pool.members := by
    intro name
    rw [h.built.modelPools, ModelPoolIndex.isProviderInAnyPool_iff h.accepted.distinctIds]
  have hids : routing.modelPools.publicModelIds.contains model = true ↔
      ∃ pool ∈ config.modelPools, model ∈ pool.publicIds := by
    rw [List.contains_iff_mem, h.mem_publicModelIds]
  have halias : routing.modelAliases.contains model = true ↔
      model ∈ config.gateway.modelAliases.keys := by
    rw [OrdMap.contains_iff, h.built.modelAliases]
  unfold shouldHideInternalModel AppConfig.Hidden
  dsimp only
  rw [hnonempty, Bool.and_eq_true, Bool.and_eq_true, Bool.not_false, Bool.true_and,
    List.all_eq_true, Bool.not_eq_true', Bool.not_eq_true', ← Bool.not_eq_true,
    ← Bool.not_eq_true, hids, halias, and_assoc]
  refine and_congr ?_ (and_congr ?_ Iff.rfl)
  · constructor
    · intro hall provider hprovider hmodel
      have hname := (hproviders provider.name).mpr ⟨provider, hprovider, hmodel, rfl⟩
      exact (hpool provider.name).mp (hall provider.name ((Finset.mem_sort _).mpr hname))
    · intro hall name hname
      obtain ⟨provider, hprovider, hmodel, rfl⟩ :=
        (hproviders name).mp ((Finset.mem_sort _).mp hname)
      exact (hpool provider.name).mpr (hall provider hprovider hmodel)
  · constructor
    · exact fun hnot pool hmem hid => hnot ⟨pool, hmem, hid⟩
    · rintro hall ⟨pool, hmem, hid⟩
      exact hall pool hmem hid

theorem mem_ids_directListing :
    model ∈ routing.directListing.ids ↔
      (∃ provider ∈ config.providers, provider.model = model) ∧ ¬config.Hidden model := by
  rw [(directListing_extends routing).ids]
  have hempty : model ∉ ({} : Listing).ids := List.not_mem_nil
  constructor
  · rintro (hmem | hmem)
    · exact absurd hmem hempty
    · obtain ⟨r, hr, rfl⟩ := List.mem_map.mp hmem
      obtain ⟨⟨m, ps⟩, hdirect, rfl⟩ := List.mem_map.mp hr
      obtain ⟨hentry, hshown⟩ := List.mem_filter.mp hdirect
      have hget := OrdMap.mem_entries.mp hentry
      refine ⟨(h.get?_providersByModel.mp hget).1, fun hhidden => ?_⟩
      have hvisible : (!routing.shouldHideInternalModel m ps) = true := hshown
      rw [(h.shouldHide_iff hget).mpr hhidden] at hvisible
      exact Bool.noConfusion hvisible
  · rintro ⟨⟨provider, hprovider, hmodel⟩, hshown⟩
    obtain ⟨ps, hget⟩ := h.exists_direct hprovider hmodel
    have hvisible : routing.shouldHideInternalModel model ps = false := by
      rw [← Bool.not_eq_true, h.shouldHide_iff hget]
      exact hshown
    have hdirect : (model, ps) ∈ routing.directModels :=
      List.mem_filter.mpr ⟨OrdMap.mem_entries.mpr hget, by simp [hvisible]⟩
    exact .inr (List.mem_map.mpr ⟨_, List.mem_map_of_mem hdirect, rfl⟩)

theorem mem_ids_listing :
    model ∈ routing.listing.ids ↔
      ((∃ provider ∈ config.providers, provider.model = model) ∧ ¬config.Hidden model) ∨
        (∃ pool ∈ config.modelPools, model ∈ pool.publicIds) ∨
        model ∈ config.gateway.modelAliases.keys := by
  have hpools : (routing.modelPools.publicModelIds.map routing.poolResponse).map
      ModelResponse.id = routing.modelPools.publicModelIds := by
    rw [List.map_map]
    exact List.map_id' _
  have haliases : (routing.modelAliases.entries.map routing.aliasResponse).map
      ModelResponse.id = routing.modelAliases.keys := by
    rw [List.map_map]
    rfl
  rw [h.extends_listing.ids, h.mem_ids_directListing, List.map_append, List.mem_append, hpools,
    haliases, h.mem_publicModelIds, h.built.modelAliases]

end Setting

theorem ids_listModels (routing : RoutingState) :
    (routing.listModels.data.map ModelResponse.id).Perm routing.listing.ids :=
  (List.mergeSort_perm _ _).map _

/-! ## The truth of an entry -/

/-- The entry says what its id stands for and which providers will be tried. -/
def Truthful (routing : RoutingState) (r : ModelResponse) : Prop :=
  r.resolvedModel = routing.resolve r.id ∧
    ∀ metricsSnapshot resilience,
      r.providers.Perm
        ((routing.candidates metricsSnapshot resilience r.resolvedModel).map ProviderEntry.name)

namespace Setting

variable {metricsSnapshot : Option MetricsSnapshot} {resilience : Option ResilienceRegistry}
  (h : Setting config routing)

include h

/-- The names of the candidates are distinct, so it is enough to know which they are. -/
theorem sort_perm_candidates {names : Finset String}
    (hnames : ∀ name, name ∈ names ↔ ∃ entry ∈ routing.providers, entry.eligible routing.modelPools
      model = true ∧ entry.name = name) :
    names.sort.Perm ((routing.candidates metricsSnapshot resilience model).map
      ProviderEntry.name) := by
  have hnodup : (routing.providers.map ProviderEntry.name).Nodup := by
    rw [(h.built.providers.map ProviderEntry.name).nodup_iff, List.map_map]
    exact h.accepted.names_nodup
  have hcandidates : ((routing.candidates metricsSnapshot resilience model).map
      ProviderEntry.name).Nodup := by
    unfold candidates
    rw [(candidateProviders_perm.map ProviderEntry.name).nodup_iff]
    exact hnodup.sublist (List.filter_sublist.map ProviderEntry.name)
  apply (List.perm_ext_iff_of_nodup (Finset.sort_nodup _ _) hcandidates).mpr
  intro name
  rw [Finset.mem_sort, hnames, List.mem_map]
  constructor
  · rintro ⟨entry, hentry, heligible, hname⟩
    exact ⟨entry, mem_candidates.mpr ⟨hentry, heligible⟩, hname⟩
  · rintro ⟨entry, hentry, hname⟩
    obtain ⟨hprovider, heligible⟩ := mem_candidates.mp hentry
    exact ⟨entry, hprovider, heligible, hname⟩

/-- A model of some provider, and the providers that have it. -/
theorem direct_perm (hget : routing.providersByModel.get? model = some providers) :
    providers.sort.Perm ((routing.candidates metricsSnapshot resilience model).map
      ProviderEntry.name) := by
  obtain ⟨⟨first, hfirst, hmodel⟩, -⟩ := h.get?_providersByModel.mp hget
  have hno : ∀ pool ∈ config.modelPools, model ∉ pool.publicIds :=
    fun pool hpool hid => (h.pool_id_free hpool hid).1 first hfirst hmodel
  apply h.sort_perm_candidates
  intro name
  rw [(OrdMap.get?_groupBy.mp hget).2]
  simp only [eligible_of_no_pool h.accepted h.built hno, beq_iff_eq]

/-- The id of a pool, and its members. -/
theorem pool_perm (hpool : pool ∈ config.modelPools) (hid : id ∈ pool.publicIds) :
    pool.members.toFinset.sort.Perm
      ((routing.candidates metricsSnapshot resilience id).map ProviderEntry.name) := by
  apply h.sort_perm_candidates
  intro name
  simp only [eligible_of_pool h.accepted h.built hpool hid, decide_eq_true_eq,
    List.mem_toFinset]
  constructor
  · intro hmember
    obtain ⟨provider, hprovider, rfl⟩ := h.member_known hpool hmember
    exact ⟨provider.entry, h.built.mem_providers.mpr ⟨provider, hprovider, rfl⟩, hmember, rfl⟩
  · rintro ⟨entry, -, hmember, rfl⟩
    exact hmember

theorem resolve_of_not_key (hkey : model ∉ config.gateway.modelAliases.keys) :
    routing.resolve model = model := by
  apply resolve_of_no_alias
  rw [h.built.modelAliases, ← Option.not_isSome_iff_eq_none]
  exact fun hsome => hkey (OrdMap.contains_iff.mp hsome)

theorem resolve_pool_id (hpool : pool ∈ config.modelPools) (hid : id ∈ pool.publicIds) :
    routing.resolve id = id :=
  h.resolve_of_not_key (h.pool_id_free hpool hid).2

theorem direct_truthful {direct : String × Finset String} (hdirect : direct ∈ routing.directModels)
    (hself : routing.resolve direct.1 = direct.1) :
    routing.Truthful (directResponse direct) := by
  have hget := OrdMap.mem_entries.mp (List.mem_filter.mp hdirect).1
  exact ⟨hself.symm, fun _ _ => h.direct_perm hget⟩

theorem pool_truthful (hid : id ∈ routing.modelPools.publicModelIds) :
    routing.Truthful (routing.poolResponse id) := by
  obtain ⟨pool, hpool, hid⟩ := h.mem_publicModelIds.mp hid
  refine ⟨(h.resolve_pool_id hpool hid).symm, fun metricsSnapshot resilience => ?_⟩
  unfold poolResponse
  rw [h.providersForModelId hpool hid]
  exact h.pool_perm hpool hid

theorem alias_truthful {entry : String × String} (hentry : entry ∈ routing.modelAliases.entries) :
    routing.Truthful (routing.aliasResponse entry) := by
  obtain ⟨name, target⟩ := entry
  have hget := OrdMap.mem_entries.mp hentry
  have hvalue : target ∈ config.gateway.modelAliases.values := by
    rw [← h.built.modelAliases]
    exact List.mem_map.mpr ⟨(name, target), hentry, rfl⟩
  refine ⟨(resolve_of_alias hget).symm, fun metricsSnapshot resilience => ?_⟩
  unfold aliasResponse
  dsimp only
  rcases h.aliasProviders_cases hvalue with ⟨direct, hdirect, hproviders⟩ |
    ⟨pool, hpool, hid, hproviders⟩
  · rw [hproviders]
    exact h.direct_perm hdirect
  · rw [hproviders]
    exact h.pool_perm hpool hid

end Setting

/-! ## The list as a whole -/

/-- No id is listed twice, and every entry is true. -/
def ListsTruthfully (routing : RoutingState) : Prop :=
  (routing.listModels.data.map ModelResponse.id).Nodup ∧
    ∀ r ∈ routing.listModels.data, routing.Truthful r

/-- Every model that can be requested is listed. -/
def ListsRoutable (routing : RoutingState) : Prop :=
  ∀ metricsSnapshot resilience model,
    routing.candidates metricsSnapshot resilience (routing.resolve model) ≠ [] →
      model ∈ routing.listModels.data.map ModelResponse.id

theorem mem_data {r : ModelResponse} :
    r ∈ routing.listModels.data ↔ r ∈ routing.listing.models :=
  (List.mergeSort_perm _ _).mem_iff

namespace Setting

variable (h : Setting config routing)

include h

theorem listsTruthfully (hapart : config.AliasesApart) :
    routing.ListsTruthfully := by
  refine ⟨(ids_listModels routing).nodup_iff.mpr h.extends_listing.tidy.nodup, fun r hr => ?_⟩
  rcases h.extends_listing.models r (mem_data.mp hr) with hr | hr
  · rcases (directListing_extends routing).models r hr with hr | hr
    · exact absurd hr List.not_mem_nil
    · obtain ⟨direct, hdirect, rfl⟩ := List.mem_map.mp hr
      apply h.direct_truthful hdirect
      have hentry := OrdMap.mem_entries.mp (List.mem_filter.mp hdirect).1
      have hmodel := (h.get?_providersByModel.mp hentry).1
      cases halias : routing.modelAliases.get? direct.1 with
      | none => exact resolve_of_no_alias halias
      | some target =>
          rw [resolve_of_alias halias]
          rw [h.built.modelAliases] at halias
          exact hapart (direct.1, target) (OrdMap.mem_entries.mpr halias) hmodel
  · rcases List.mem_append.mp hr with hr | hr
    · obtain ⟨id, hid, rfl⟩ := List.mem_map.mp hr
      exact h.pool_truthful hid
    · obtain ⟨entry, hentry, rfl⟩ := List.mem_map.mp hr
      exact h.alias_truthful hentry

/-- The name of an alias that is a provider's model is listed as that model. -/
theorem aliasesApart (htrue : routing.ListsTruthfully) :
    config.AliasesApart := by
  rintro ⟨name, target⟩ hentry hmodel
  have hget := OrdMap.mem_entries.mp hentry
  have hkey : name ∈ config.gateway.modelAliases.keys := OrdMap.mem_keys.mpr ⟨target, hget⟩
  have hlisted : name ∈ routing.directListing.ids :=
    h.mem_ids_directListing.mpr ⟨hmodel, fun hhidden => hhidden.2.2 hkey⟩
  obtain ⟨r, hr, hid⟩ := List.mem_map.mp hlisted
  have hself : r.resolvedModel = r.id := by
    rcases (directListing_extends routing).models r hr with hr | hr
    · exact absurd hr List.not_mem_nil
    · obtain ⟨direct, -, rfl⟩ := List.mem_map.mp hr
      rfl
  have hresolve := (htrue.2 r (mem_data.mpr (h.extends_listing.subset hr))).1
  rw [hself, hid, resolve_of_alias (h.built.modelAliases ▸ hget)] at hresolve
  exact hresolve.symm

theorem listsRoutable (hpublic : config.ModelsPublic) :
    routing.ListsRoutable := by
  intro metricsSnapshot resilience model hne
  rw [(ids_listModels routing).mem_iff, h.mem_ids_listing]
  by_cases hkey : model ∈ config.gateway.modelAliases.keys
  · exact .inr (.inr hkey)
  · by_cases hpool : ∃ pool ∈ config.modelPools, model ∈ pool.publicIds
    · exact .inr (.inl hpool)
    · -- Without an alias and a pool, the candidates are the providers with this model.
      have hno : ∀ pool ∈ config.modelPools, model ∉ pool.publicIds :=
        fun pool hmem hid => hpool ⟨pool, hmem, hid⟩
      rw [h.resolve_of_not_key hkey] at hne
      obtain ⟨entry, hentry⟩ := List.exists_mem_of_ne_nil _ hne
      obtain ⟨hprovider, heligible⟩ := mem_candidates.mp hentry
      obtain ⟨provider, hmem, rfl⟩ := h.built.mem_providers.mp hprovider
      rw [eligible_of_no_pool h.accepted h.built hno, beq_iff_eq] at heligible
      have hmodel : provider.model = model := heligible
      refine .inl ⟨⟨provider, hmem, hmodel⟩, fun hhidden => ?_⟩
      rcases hpublic provider hmem with halias | ⟨other, hother, hsame, hout⟩
      · exact hkey (hmodel ▸ halias)
      · obtain ⟨pool, hpool, hmember⟩ := hhidden.1 other hother (hsame.trans hmodel)
        exact hout pool hpool hmember

theorem modelsPublic (hlists : routing.ListsRoutable) :
    config.ModelsPublic := by
  intro provider hprovider
  by_contra hneither
  obtain ⟨hkey, hpools⟩ := not_or.mp hneither
  have hno : ∀ pool ∈ config.modelPools, provider.model ∉ pool.publicIds :=
    fun pool hpool hid => (h.pool_id_free hpool hid).1 provider hprovider rfl
  have hne : routing.candidates none none (routing.resolve provider.model) ≠ [] := by
    rw [h.resolve_of_not_key hkey]
    apply List.ne_nil_of_mem
    apply mem_candidates.mpr
    refine ⟨h.built.mem_providers.mpr ⟨provider, hprovider, rfl⟩, ?_⟩
    rw [eligible_of_no_pool h.accepted h.built hno]
    exact beq_iff_eq.mpr rfl
  have hlisted := hlists none none provider.model hne
  rw [(ids_listModels routing).mem_iff, h.mem_ids_listing] at hlisted
  rcases hlisted with ⟨-, hshown⟩ | ⟨pool, hpool, hid⟩ | halias
  · apply hshown
    refine ⟨fun other hother hmodel => ?_, hno, hkey⟩
    by_contra hout
    exact hpools ⟨other, hother, hmodel, fun pool hpool hmember => hout ⟨pool, hpool, hmember⟩⟩
  · exact hno pool hpool hid
  · exact hkey halias

end Setting

variable {env : String → Option String}

theorem setting_of_validate (hvalid : config.validate = .ok ()) (htidy : config.PoolsTidy)
    (hbuild : fromConfig env config = .ok routing) : Setting config routing :=
  ⟨AppConfig.accepted_of_validate hvalid, built_of_fromConfig hbuild, htidy⟩

/-- The list is true exactly if no alias gives another meaning to the model of a
provider. -/
theorem listsTruthfully_iff (hvalid : config.validate = .ok ()) (htidy : config.PoolsTidy)
    (hbuild : fromConfig env config = .ok routing) :
    routing.ListsTruthfully ↔ config.AliasesApart := by
  have hsetting := setting_of_validate hvalid htidy hbuild
  exact ⟨hsetting.aliasesApart, hsetting.listsTruthfully⟩

theorem onePool_tidy : (onePool "p1").PoolsTidy := by
  have hpool : trimmed "pool" = "pool" := by decide +kernel
  have hmember : trimmed "p1" = "p1" := by decide +kernel
  constructor
  · simp [onePool, mockConfig, ModelPoolConfig.publicIds, hpool]
  · simp [onePool, mockConfig, hmember]

theorem listsTruthfully_onePool : (onePoolRouting "p1").ListsTruthfully := by
  refine (listsTruthfully_iff validate_onePool.1 onePool_tidy (fromConfig_onePool "p1")).mpr ?_
  rintro entry hentry ⟨provider, hprovider, hmodel⟩
  have hname : entry = ("fast", "pool") := List.mem_singleton.mp hentry
  have hfirst : provider.model = "m" := by
    rw [List.mem_singleton.mp hprovider]
  rw [hname, hfirst] at hmodel
  exact absurd hmodel (by decide)

/-- Two providers, and an alias that sends the model of one to that of the other. -/
def crossedAlias : AppConfig :=
  mockConfig [("p1", "m1"), ("p2", "m2")] (OrdMap.empty.insert "m1" "m2") []

/-- A request for `m1` goes to `m2`, but the list says that `m1` is served as such. -/
theorem crossed_alias_listed_untruly :
    ¬∀ (env : String → Option String) (config : AppConfig) (routing : RoutingState),
      config.validate = .ok () → config.PoolsTidy → fromConfig env config = .ok routing →
        routing.ListsTruthfully := by
  intro hall
  have hvalid : crossedAlias.validate = .ok () := by decide +kernel
  have htidy : crossedAlias.PoolsTidy := ⟨by simp [crossedAlias, mockConfig],
    by simp [crossedAlias, mockConfig]⟩
  have hbuild := fromConfig_mockConfig [("p1", "m1"), ("p2", "m2")]
    (OrdMap.empty.insert "m1" "m2") []
  have hapart := (setting_of_validate hvalid htidy hbuild).aliasesApart
    (hall _ _ _ hvalid htidy hbuild)
  have heq := hapart ("m1", "m2") List.mem_cons_self ⟨_, List.mem_cons_self, rfl⟩
  exact absurd heq (by decide)

/-- Every model that can be requested is listed exactly if the model of every provider is
the name of an alias or the model of a provider outside the pools. -/
theorem listsRoutable_iff (hvalid : config.validate = .ok ()) (htidy : config.PoolsTidy)
    (hbuild : fromConfig env config = .ok routing) :
    routing.ListsRoutable ↔ config.ModelsPublic := by
  have hsetting := setting_of_validate hvalid htidy hbuild
  exact ⟨hsetting.modelsPublic, hsetting.listsRoutable⟩

/-- One provider in a pool and another one with the same model outside. -/
def sharedModel : AppConfig :=
  mockConfig [("p1", "m"), ("p2", "m")] .empty [{ name := "pool", members := ["p1"] }]

theorem listsRoutable_sharedModel :
    ∃ routing, fromConfig (fun _ => some "key") sharedModel = .ok routing ∧
      routing.ListsRoutable := by
  have hvalid : sharedModel.validate = .ok () := by decide +kernel
  have hbuild := fromConfig_mockConfig [("p1", "m"), ("p2", "m")] .empty
    [{ name := "pool", members := ["p1"] }]
  have hpool : trimmed "pool" = "pool" := by decide +kernel
  have hmember : trimmed "p1" = "p1" := by decide +kernel
  have htidy : sharedModel.PoolsTidy :=
    ⟨by simp [sharedModel, mockConfig, ModelPoolConfig.publicIds, hpool],
      by simp [sharedModel, mockConfig, hmember]⟩
  refine ⟨_, hbuild, (listsRoutable_iff hvalid htidy hbuild).mpr ?_⟩
  intro provider hprovider
  refine .inr ⟨_, List.mem_cons_of_mem _ List.mem_cons_self, ?_, ?_⟩
  · obtain ⟨⟨name, model⟩, hmem, rfl⟩ := List.mem_map.mp hprovider
    simp only [List.mem_cons, List.not_mem_nil, or_false, Prod.mk.injEq] at hmem
    rcases hmem with ⟨-, rfl⟩ | ⟨-, rfl⟩ <;> rfl
  · intro pool hpool
    rw [List.mem_singleton.mp hpool]
    decide

/-- The model of the only member of a pool is not listed, but a request for it reaches the
member, and without a slot of the pool. -/
theorem hidden_model_routable :
    (¬∀ (env : String → Option String) (config : AppConfig) (routing : RoutingState),
      config.validate = .ok () → config.PoolsTidy → fromConfig env config = .ok routing →
        routing.ListsRoutable) ∧
      (((onePoolRouting "p1").candidates none none "m").map ProviderEntry.name = ["p1"]) ∧
      ∀ (state : AppState) (request : ChatCompletionRequest), request.model = some "m" →
        poolNameForRequest ((onePoolRouting "p1").applyTo state) request = none := by
  have hnone : (onePoolRouting "p1").modelPools.poolForPublicModel "m" = none := by
    decide +kernel
  refine ⟨fun hall => ?_, by decide +kernel, fun state request hmodel => ?_⟩
  swap
  · show request.model.bind (fun model =>
      ((onePoolRouting "p1").modelPools.poolForPublicModel model).map ModelPool.name) = none
    rw [hmodel, Option.bind_some, hnone, Option.map_none]
  have hsetting := setting_of_validate validate_onePool.1 onePool_tidy (fromConfig_onePool "p1")
  have hpublic := hsetting.modelsPublic
    (hall _ _ _ validate_onePool.1 onePool_tidy (fromConfig_onePool "p1"))
  rcases hpublic _ List.mem_cons_self with hkey | ⟨other, hother, -, hout⟩
  · exact absurd (List.mem_singleton.mp hkey) (by decide)
  · apply hout _ List.mem_cons_self
    rw [List.mem_singleton.mp hother]
    exact List.mem_cons_self

end RoutingState
end RustyGate
