/-
Model pools (`src/routing/model_pools.rs`).

The index knows a pool by each of its public ids, which are its name and its aliases as
they are written.  Where no id is written twice, an id leads to the pool that has it
(`poolForPublicModel_eq_some`).
-/
import RustyGate.Config.Types
import Mathlib.Data.Finset.Sort
import Mathlib.Data.List.Dedup

namespace RustyGate

structure ModelPool where
  name : String
  publicModelIds : List String
  routingPolicy : Option RoutingPolicy
  members : Finset String
  deriving DecidableEq

structure ModelPoolIndex where
  poolsByName : OrdMap String ModelPool := .empty
  poolByPublicModelId : OrdMap String String := .empty

/-- A set of names is listed in the order of the names. -/
instance nameOrder_trans : IsTrans String fun a b => a ≤ b := ⟨fun _ _ _ => le_trans⟩

instance nameOrder_antisymm : Std.Antisymm fun a b : String => a ≤ b := ⟨fun _ _ => le_antisymm⟩

/-- The pool that `from_configs` makes of a configuration.  Removing the repetitions that
stand side by side in the sorted list removes them all. -/
def ModelPool.fromConfig (config : ModelPoolConfig) : ModelPool where
  name := config.name
  publicModelIds :=
    ((config.name :: config.aliases.filter fun name => name ≠ config.name).mergeSort
      fun left right => left ≤ right).dedup
  routingPolicy := config.routingPolicy
  members := config.members.toFinset

namespace ModelPoolIndex

/-- One turn of the loop of `from_configs`. -/
def addPool (index : ModelPoolIndex) (config : ModelPoolConfig) : ModelPoolIndex where
  poolsByName := index.poolsByName.insert config.name (.fromConfig config)
  poolByPublicModelId :=
    index.poolByPublicModelId.insertAll (ModelPool.fromConfig config).publicModelIds config.name

def fromConfigs (configs : List ModelPoolConfig) : ModelPoolIndex := configs.foldl addPool {}

def poolForPublicModel (index : ModelPoolIndex) (model : String) : Option ModelPool :=
  (index.poolByPublicModelId.get? model).bind index.poolsByName.get?

def membersForPublicModel (index : ModelPoolIndex) (model : String) : Option (Finset String) :=
  (index.poolForPublicModel model).map ModelPool.members

def providersForModelId (index : ModelPoolIndex) (model : String) : Option (List String) :=
  (index.membersForPublicModel model).map fun members => members.sort

def publicModelIds (index : ModelPoolIndex) : List String := index.poolByPublicModelId.keys

def isProviderInAnyPool (index : ModelPoolIndex) (providerName : String) : Bool :=
  index.poolsByName.values.any fun pool => providerName ∈ pool.members

end ModelPoolIndex

/-! ## The ids of the pools -/

/-- The public ids of a pool as they are written. -/
def ModelPoolConfig.publicIds (config : ModelPoolConfig) : List String :=
  config.name :: config.aliases

theorem ModelPool.mem_publicModelIds {config : ModelPoolConfig} {id : String} :
    id ∈ (ModelPool.fromConfig config).publicModelIds ↔ id ∈ config.publicIds := by
  show id ∈ ((config.name :: config.aliases.filter fun name => name ≠ config.name).mergeSort
    fun left right => left ≤ right).dedup ↔ id ∈ config.name :: config.aliases
  rw [List.mem_dedup, List.mem_mergeSort, List.mem_cons, List.mem_cons, List.mem_filter]
  by_cases h : id = config.name <;> simp [h]

namespace ModelPoolIndex

variable {configs : List ModelPoolConfig} {id name : String} {pool : ModelPool}

theorem poolByPublicModelId_fromConfigs (configs : List ModelPoolConfig) :
    (fromConfigs configs).poolByPublicModelId =
      OrdMap.build (fun c => (ModelPool.fromConfig c).publicModelIds) ModelPoolConfig.name
        configs :=
  (List.foldl_hom poolByPublicModelId fun _ _ => rfl).symm

theorem poolsByName_fromConfigs (configs : List ModelPoolConfig) :
    (fromConfigs configs).poolsByName =
      OrdMap.build (fun c => [c.name]) ModelPool.fromConfig configs :=
  (List.foldl_hom poolsByName fun _ _ => rfl).symm

/-- No id is written for two pools. -/
def DistinctIds (configs : List ModelPoolConfig) : Prop :=
  configs.Pairwise fun c d => c.publicIds.Disjoint d.publicIds

theorem name_mem_publicIds (config : ModelPoolConfig) : config.name ∈ config.publicIds :=
  List.mem_cons_self

variable (h : DistinctIds configs)

include h

theorem get?_poolByPublicModelId :
    (fromConfigs configs).poolByPublicModelId.get? id = some name ↔
      ∃ c ∈ configs, id ∈ c.publicIds ∧ c.name = name := by
  have hdisjoint : configs.Pairwise fun c d =>
      (ModelPool.fromConfig c).publicModelIds.Disjoint (ModelPool.fromConfig d).publicModelIds :=
    h.imp fun hcd i hc hd =>
      hcd (ModelPool.mem_publicModelIds.mp hc) (ModelPool.mem_publicModelIds.mp hd)
  rw [poolByPublicModelId_fromConfigs, OrdMap.get?_build hdisjoint]
  simp only [ModelPool.mem_publicModelIds]

theorem get?_poolsByName :
    (fromConfigs configs).poolsByName.get? name = some pool ↔
      ∃ c ∈ configs, c.name = name ∧ ModelPool.fromConfig c = pool := by
  have hdisjoint : configs.Pairwise fun c d => [c.name].Disjoint [d.name] := by
    apply h.imp
    intro c d hcd i hc hd
    rw [List.mem_singleton] at hc hd
    exact hcd (hc ▸ name_mem_publicIds c) (hd ▸ name_mem_publicIds d)
  rw [poolsByName_fromConfigs, OrdMap.get?_build hdisjoint]
  simp only [List.mem_singleton, eq_comm]

/-- Pools with an id in common are one. -/
theorem DistinctIds.eq_of_mem {c d : ModelPoolConfig}
    (hc : c ∈ configs) (hd : d ∈ configs) (hidc : id ∈ c.publicIds) (hidd : id ∈ d.publicIds) :
    c = d := by
  by_contra hne
  have hsymm : Std.Symm fun c d : ModelPoolConfig => c.publicIds.Disjoint d.publicIds :=
    ⟨fun _ _ hcd => hcd.symm⟩
  exact List.Pairwise.forall h hc hd hne hidc hidd

/-- An id leads to the pool that has it. -/
theorem poolForPublicModel_eq_some :
    (fromConfigs configs).poolForPublicModel id = some pool ↔
      ∃ c ∈ configs, id ∈ c.publicIds ∧ ModelPool.fromConfig c = pool := by
  unfold poolForPublicModel
  rw [Option.bind_eq_some_iff]
  constructor
  · rintro ⟨name, hid, hpool⟩
    obtain ⟨c, hc, hidc, rfl⟩ := (get?_poolByPublicModelId h).mp hid
    obtain ⟨d, hd, hname, rfl⟩ := (get?_poolsByName h).mp hpool
    have hdc : d = c :=
      h.eq_of_mem hd hc (hname ▸ name_mem_publicIds d) (name_mem_publicIds c)
    exact ⟨c, hc, hidc, by rw [hdc]⟩
  · rintro ⟨c, hc, hidc, hpool⟩
    exact ⟨c.name, (get?_poolByPublicModelId h).mpr ⟨c, hc, hidc, rfl⟩,
      (get?_poolsByName h).mpr ⟨c, hc, rfl, hpool⟩⟩

theorem poolForPublicModel_eq_none :
    (fromConfigs configs).poolForPublicModel id = none ↔ ∀ c ∈ configs, id ∉ c.publicIds := by
  constructor
  · intro hnone c hc hid
    have hsome := (poolForPublicModel_eq_some h).mpr ⟨c, hc, hid, rfl⟩
    rw [hnone] at hsome
    exact absurd hsome.symm (Option.some_ne_none _)
  · intro hall
    by_contra hsome
    obtain ⟨pool, hpool⟩ := Option.ne_none_iff_exists'.mp hsome
    obtain ⟨c, hc, hid, -⟩ := (poolForPublicModel_eq_some h).mp hpool
    exact hall c hc hid

theorem mem_publicModelIds :
    id ∈ (fromConfigs configs).publicModelIds ↔ ∃ c ∈ configs, id ∈ c.publicIds := by
  rw [publicModelIds, OrdMap.mem_keys]
  constructor
  · rintro ⟨name, hname⟩
    obtain ⟨c, hc, hid, -⟩ := (get?_poolByPublicModelId h).mp hname
    exact ⟨c, hc, hid⟩
  · rintro ⟨c, hc, hid⟩
    exact ⟨c.name, (get?_poolByPublicModelId h).mpr ⟨c, hc, hid, rfl⟩⟩

theorem isProviderInAnyPool_iff {provider : String} :
    (fromConfigs configs).isProviderInAnyPool provider = true ↔
      ∃ c ∈ configs, provider ∈ c.members := by
  rw [isProviderInAnyPool, List.any_eq_true]
  constructor
  · rintro ⟨pool, hpool, hmem⟩
    obtain ⟨⟨name, found⟩, hentry, rfl⟩ := List.mem_map.mp hpool
    obtain ⟨c, hc, -, hc'⟩ := (get?_poolsByName h).mp (OrdMap.mem_entries.mp hentry)
    have hmem' := of_decide_eq_true hmem
    rw [← hc'] at hmem'
    exact ⟨c, hc, List.mem_toFinset.mp hmem'⟩
  · rintro ⟨c, hc, hmem⟩
    have hentry : (c.name, ModelPool.fromConfig c) ∈ (fromConfigs configs).poolsByName.entries :=
      OrdMap.mem_entries.mpr ((get?_poolsByName h).mpr ⟨c, hc, rfl, rfl⟩)
    have hvalue : ModelPool.fromConfig c ∈ (fromConfigs configs).poolsByName.values :=
      List.mem_map.mpr ⟨(c.name, ModelPool.fromConfig c), hentry, rfl⟩
    have hmember : provider ∈ (ModelPool.fromConfig c).members := List.mem_toFinset.mpr hmem
    exact ⟨ModelPool.fromConfig c, hvalue, decide_eq_true hmember⟩

end ModelPoolIndex
end RustyGate
