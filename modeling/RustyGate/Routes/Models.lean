/-
The list of models (`list_models` in `src/routes/models.rs`).

Three loops add to the list: over the models of the providers, over the public ids of the
pools and over the aliases.  The set of ids that have been seen keeps an id from being added
twice.
-/
import RustyGate.App.PoolRouting

namespace RustyGate

structure ModelResponse where
  id : String
  object : String := "model"
  created : Int := 1700000000
  ownedBy : String := "rustygate"
  resolvedModel : String
  providers : List String
  deriving DecidableEq, Repr

structure ModelListResponse where
  object : String := "list"
  data : List ModelResponse
  deriving DecidableEq, Repr

/-- What the loops work on. -/
structure Listing where
  models : List ModelResponse := []
  seenIds : Finset String := ∅

namespace RoutingState

def providersByModel (routing : RoutingState) : OrdMap String (Finset String) :=
  OrdMap.groupBy ProviderEntry.model ProviderEntry.name routing.providers

def shouldHideInternalModel (routing : RoutingState) (model : String)
    (providers : Finset String) : Bool :=
  let providerNames := providers.sort
  let allProvidersInPools := !providerNames.isEmpty &&
    providerNames.all routing.modelPools.isProviderInAnyPool
  allProvidersInPools && !routing.modelPools.publicModelIds.contains model &&
    !routing.modelAliases.contains model

def directModels (routing : RoutingState) : List (String × Finset String) :=
  routing.providersByModel.entries.filter fun (model, providers) =>
    !routing.shouldHideInternalModel model providers

/-- One turn of the loop over the models of the providers. -/
def addDirectModel (l : Listing) (direct : String × Finset String) : Listing where
  models := l.models ++
    [{ id := direct.1, resolvedModel := direct.1, providers := direct.2.sort }]
  seenIds := insert direct.1 l.seenIds

/-- One turn of the loop over the public ids. -/
def addPoolModel (routing : RoutingState) (l : Listing) (poolModelId : String) : Listing :=
  match routing.modelPools.providersForModelId poolModelId with
  | none => l
  | some poolProviders =>
      if poolModelId ∈ l.seenIds then l
      else {
        models := l.models ++
          [{ id := poolModelId, resolvedModel := poolModelId, providers := poolProviders }]
        seenIds := insert poolModelId l.seenIds }

def aliasProviders (routing : RoutingState) (resolvedModel : String) : Option (List String) :=
  match routing.providersByModel.get? resolvedModel with
  | some direct => some direct.sort
  | none => routing.modelPools.providersForModelId resolvedModel

/-- One turn of the loop over the aliases.  The name counts as seen even if its target has
no providers. -/
def addAliasModel (routing : RoutingState) (l : Listing) (entry : String × String) : Listing :=
  let (name, resolvedModel) := entry
  if name ∈ l.seenIds then l
  else
    match routing.aliasProviders resolvedModel with
    | none => { l with seenIds := insert name l.seenIds }
    | some providers =>
        { models := l.models ++ [{ id := name, resolvedModel, providers }]
          seenIds := insert name l.seenIds }

def listing (routing : RoutingState) : Listing :=
  let direct := routing.directModels.foldl addDirectModel {}
  let pools := routing.modelPools.publicModelIds.foldl routing.addPoolModel direct
  routing.modelAliases.entries.foldl routing.addAliasModel pools

def listModels (routing : RoutingState) : ModelListResponse where
  data := routing.listing.models.mergeSort fun left right => left.id ≤ right.id

end RoutingState

/-! ## Adding to a list -/

namespace Listing

def ids (l : Listing) : List String := l.models.map ModelResponse.id

/-- Add a model unless its id has been seen. -/
def add (l : Listing) (r : ModelResponse) : Listing :=
  if r.id ∈ l.seenIds then l
  else { models := l.models ++ [r], seenIds := insert r.id l.seenIds }

/-- The ids that have been seen are those of the list, each once. -/
structure Tidy (l : Listing) : Prop where
  nodup : l.ids.Nodup
  seen : ∀ id, id ∈ l.seenIds ↔ id ∈ l.ids

variable {l : Listing} {r : ModelResponse} {rs : List ModelResponse}

theorem tidy_empty : ({} : Listing).Tidy := ⟨List.nodup_nil, by simp [ids]⟩

theorem add_of_seen (h : r.id ∈ l.seenIds) : l.add r = l := if_pos h

theorem add_of_not_seen (h : r.id ∉ l.seenIds) :
    l.add r = { models := l.models ++ [r], seenIds := insert r.id l.seenIds } := if_neg h

theorem Tidy.add (h : l.Tidy) (r : ModelResponse) : (l.add r).Tidy := by
  by_cases hseen : r.id ∈ l.seenIds
  · rw [add_of_seen hseen]
    exact h
  · have hids : (l.add r).ids = l.ids ++ [r.id] := by
      rw [add_of_not_seen hseen, ids, List.map_append]
      rfl
    constructor
    · rw [hids]
      have hnot : r.id ∉ l.ids := fun hmem => hseen ((h.seen r.id).mpr hmem)
      exact List.nodup_append.mpr ⟨h.nodup, List.nodup_singleton _, fun i hi j hj heq =>
        hnot (List.mem_singleton.mp hj ▸ heq ▸ hi)⟩
    · intro id
      rw [hids, add_of_not_seen hseen, Finset.mem_insert, h.seen, List.mem_append,
        List.mem_singleton, or_comm]

theorem mem_ids_add {id : String} (h : l.Tidy) : id ∈ (l.add r).ids ↔ id ∈ l.ids ∨ id = r.id := by
  by_cases hseen : r.id ∈ l.seenIds
  · rw [add_of_seen hseen]
    constructor
    · exact .inl
    · rintro (hid | rfl)
      · exact hid
      · exact (h.seen r.id).mp hseen
  · rw [add_of_not_seen hseen, ids, List.map_append, List.mem_append]
    simp [ids]

theorem mem_models_add {s : ModelResponse} (hs : s ∈ (l.add r).models) : s ∈ l.models ∨ s = r := by
  by_cases hseen : r.id ∈ l.seenIds
  · rw [add_of_seen hseen] at hs
    exact .inl hs
  · rw [add_of_not_seen hseen, List.mem_append, List.mem_singleton] at hs
    exact hs

theorem models_subset_add : l.models ⊆ (l.add r).models := by
  by_cases hseen : r.id ∈ l.seenIds
  · rw [add_of_seen hseen]
    exact List.Subset.refl _
  · rw [add_of_not_seen hseen]
    exact List.subset_append_left _ _

/-- Adding one model after the other. -/
structure Extends (l : Listing) (rs : List ModelResponse) (l' : Listing) : Prop where
  tidy : l'.Tidy
  ids : ∀ id, id ∈ l'.ids ↔ id ∈ l.ids ∨ id ∈ rs.map ModelResponse.id
  models : ∀ r ∈ l'.models, r ∈ l.models ∨ r ∈ rs
  subset : l.models ⊆ l'.models

theorem Tidy.foldl_add (h : l.Tidy) (rs : List ModelResponse) :
    l.Extends rs (rs.foldl Listing.add l) := by
  induction rs generalizing l with
  | nil => exact ⟨h, by simp, by simp, List.Subset.refl _⟩
  | cons r rest ih =>
      obtain ⟨htidy, hids, hmodels, hsubset⟩ := ih (h.add r)
      rw [List.foldl_cons]
      refine ⟨htidy, fun id => ?_, fun s hs => ?_,
        List.Subset.trans models_subset_add hsubset⟩
      · rw [hids, mem_ids_add h, List.map_cons, List.mem_cons, or_assoc]
      · rcases hmodels s hs with hs | hs
        · rcases mem_models_add hs with hs | rfl
          · exact .inl hs
          · exact .inr List.mem_cons_self
        · exact .inr (List.mem_cons_of_mem r hs)

end Listing

/-! ## What is listed -/

/-- No white space around the ids and the members of the pools. -/
structure AppConfig.PoolsTidy (config : AppConfig) : Prop where
  ids : ∀ pool ∈ config.modelPools, ∀ id ∈ pool.publicIds, Text.trimmed id = id
  members : ∀ pool ∈ config.modelPools, ∀ member ∈ pool.members, Text.trimmed member = member

/-- A model that is left out because all its providers are in pools. -/
def AppConfig.Hidden (config : AppConfig) (model : String) : Prop :=
  (∀ provider ∈ config.providers, provider.model = model →
    ∃ pool ∈ config.modelPools, provider.name ∈ pool.members) ∧
  (∀ pool ∈ config.modelPools, model ∉ pool.publicIds) ∧
  model ∉ config.gateway.modelAliases.keys

namespace RoutingState

variable {config : AppConfig} {routing : RoutingState} {model : String}
  {providers : Finset String}

def directResponse (direct : String × Finset String) : ModelResponse :=
  { id := direct.1, resolvedModel := direct.1, providers := direct.2.sort }

def poolResponse (routing : RoutingState) (poolModelId : String) : ModelResponse :=
  { id := poolModelId, resolvedModel := poolModelId
    providers := (routing.modelPools.providersForModelId poolModelId).getD [] }

def aliasResponse (routing : RoutingState) (entry : String × String) : ModelResponse :=
  { id := entry.1, resolvedModel := entry.2
    providers := (routing.aliasProviders entry.2).getD [] }

/-- The list after the first loop. -/
def directListing (routing : RoutingState) : Listing :=
  routing.directModels.foldl addDirectModel {}

/-- Distinct models are added one after the other. -/
theorem foldl_addDirectModel {l : Listing} {direct : List (String × Finset String)}
    (hnodup : (direct.map Prod.fst).Nodup) (hfresh : ∀ d ∈ direct, d.1 ∉ l.seenIds) :
    direct.foldl addDirectModel l = (direct.map directResponse).foldl Listing.add l := by
  induction direct generalizing l with
  | nil => rfl
  | cons d rest ih =>
      rw [List.map_cons, List.nodup_cons] at hnodup
      have hadd : addDirectModel l d = l.add (directResponse d) :=
        (Listing.add_of_not_seen (hfresh d List.mem_cons_self)).symm
      rw [List.foldl_cons, List.map_cons, List.foldl_cons, ← hadd]
      apply ih hnodup.2
      intro e he hmem
      rcases Finset.mem_insert.mp hmem with heq | hmem
      · exact hnodup.1 (heq ▸ List.mem_map_of_mem he)
      · exact hfresh e (List.mem_cons_of_mem d he) hmem

theorem directListing_extends (routing : RoutingState) :
    ({} : Listing).Extends (routing.directModels.map directResponse) routing.directListing := by
  have hnodup : (routing.directModels.map Prod.fst).Nodup :=
    routing.providersByModel.nodup_keys.sublist (List.filter_sublist.map Prod.fst)
  unfold directListing
  rw [foldl_addDirectModel hnodup (by simp)]
  exact Listing.tidy_empty.foldl_add _

/-- The other two loops, where every id has its providers. -/
theorem listing_extends
    (hpools : ∀ id ∈ routing.modelPools.publicModelIds,
      routing.modelPools.providersForModelId id ≠ none)
    (haliases : ∀ target ∈ routing.modelAliases.values, routing.aliasProviders target ≠ none) :
    routing.directListing.Extends
      (routing.modelPools.publicModelIds.map routing.poolResponse ++
        routing.modelAliases.entries.map routing.aliasResponse) routing.listing := by
  have hpool : ∀ l : Listing, ∀ id ∈ routing.modelPools.publicModelIds,
      routing.addPoolModel l id = l.add (routing.poolResponse id) := by
    intro l id hid
    obtain ⟨ps, hps⟩ := Option.ne_none_iff_exists'.mp (hpools id hid)
    unfold addPoolModel poolResponse
    rw [hps]
    rfl
  have halias : ∀ l : Listing, ∀ entry ∈ routing.modelAliases.entries,
      routing.addAliasModel l entry = l.add (routing.aliasResponse entry) := by
    rintro l ⟨name, target⟩ hentry
    have hvalue : target ∈ routing.modelAliases.values :=
      List.mem_map.mpr ⟨(name, target), hentry, rfl⟩
    obtain ⟨ps, hps⟩ := Option.ne_none_iff_exists'.mp (haliases target hvalue)
    unfold addAliasModel aliasResponse
    dsimp only
    rw [hps]
    rfl
  have hlisting : routing.listing =
      (routing.modelPools.publicModelIds.map routing.poolResponse ++
        routing.modelAliases.entries.map routing.aliasResponse).foldl Listing.add
          routing.directListing := by
    show routing.modelAliases.entries.foldl routing.addAliasModel
      (routing.modelPools.publicModelIds.foldl routing.addPoolModel routing.directListing) = _
    rw [List.foldl_append, List.foldl_map, List.foldl_map, List.foldl_ext _ _ _ hpool,
      List.foldl_ext _ _ _ halias]
  rw [hlisting]
  exact (directListing_extends routing).tidy.foldl_add _

end RoutingState
end RustyGate
