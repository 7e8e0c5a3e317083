/-
What an accepted configuration satisfies.

The validator reads the names of pools, their aliases and their members without the white
space around them, and the names and models of providers as they are written.
-/
import RustyGate.Config.Validate
import RustyGate.Routing.ModelPools
import Mathlib.Data.Finset.Union
import Mathlib.Data.List.Nodup

namespace RustyGate

open Text

/-- The public ids of a pool as the validator reads them. -/
def ModelPoolConfig.readIds (pool : ModelPoolConfig) : List String := pool.publicIds.map trimmed

namespace PoolSetting

variable {c : PoolSetting} {poolName : String} {seen names : Finset String}

/-- An id that is neither a provider's model nor the key of an alias. -/
def Free (c : PoolSetting) (id : String) : Prop :=
  id ∉ c.providerModels ∧ id ∉ c.modelAliases.keys

/-- Ids that may be added to those already seen. -/
structure Accepts (c : PoolSetting) (seen : Finset String) (ids : List String) : Prop where
  nodup : ids.Nodup
  fresh : ∀ id ∈ ids, id ∉ seen
  free : ∀ id ∈ ids, c.Free id

theorem Accepts.nil : c.Accepts seen [] :=
  ⟨List.nodup_nil, fun _ hid => absurd hid List.not_mem_nil,
    fun _ hid => absurd hid List.not_mem_nil⟩

theorem Accepts.cons {id : String} {ids : List String} (hfresh : id ∉ seen) (hfree : c.Free id)
    (h : c.Accepts (insert id seen) ids) : c.Accepts seen (id :: ids) where
  nodup := by
    refine List.nodup_cons.mpr ⟨fun hmem => ?_, h.nodup⟩
    exact h.fresh id hmem (Finset.mem_insert_self id seen)
  fresh := by
    intro j hj
    rcases List.mem_cons.mp hj with rfl | hj
    · exact hfresh
    · exact fun hmem => h.fresh j hj (Finset.mem_insert_of_mem hmem)
  free := by
    intro j hj
    rcases List.mem_cons.mp hj with rfl | hj
    · exact hfree
    · exact h.free j hj

theorem Accepts.append {ids later : List String} (h : c.Accepts seen ids)
    (hlater : c.Accepts (seen ∪ ids.toFinset) later) : c.Accepts seen (ids ++ later) where
  nodup := by
    refine List.nodup_append.mpr ⟨h.nodup, hlater.nodup, fun i hi j hj heq => ?_⟩
    exact hlater.fresh j hj (Finset.mem_union_right _ (List.mem_toFinset.mpr (heq ▸ hi)))
  fresh := by
    intro j hj
    rcases List.mem_append.mp hj with hj | hj
    · exact h.fresh j hj
    · exact fun hmem => hlater.fresh j hj (Finset.mem_union_left _ hmem)
  free := by
    intro j hj
    rcases List.mem_append.mp hj with hj | hj
    · exact h.free j hj
    · exact hlater.free j hj

/-- The three checks that a public id goes through. -/
theorem free_of_checks {id conflict taken repeated : String}
    (h : reject (decide (id ∈ c.providerModels)) conflict ++
      reject (c.modelAliases.contains id) taken ++ reject (decide (id ∈ seen)) repeated = []) :
    c.Free id ∧ id ∉ seen := by
  rw [List.append_eq_nil_iff, List.append_eq_nil_iff, reject_eq_nil, reject_eq_nil,
    reject_eq_nil, decide_eq_false_iff_not, decide_eq_false_iff_not] at h
  obtain ⟨⟨hmodel, halias⟩, hseen⟩ := h
  refine ⟨⟨hmodel, fun hkey => ?_⟩, hseen⟩
  rw [OrdMap.contains_iff.mpr hkey] at halias
  exact Bool.noConfusion halias

theorem aliasErrors_accepts {names : List String} (h : (c.aliasErrors poolName seen names).1 = []) :
    c.Accepts seen (names.map trimmed) ∧
      (c.aliasErrors poolName seen names).2 = seen ∪ (names.map trimmed).toFinset := by
  induction names generalizing seen with
  | nil => exact ⟨.nil, by simp [aliasErrors]⟩
  | cons name rest ih =>
      unfold aliasErrors at h ⊢
      by_cases hblank : trimmed name = ""
      · rw [if_pos hblank] at h
        exact absurd h (List.cons_ne_nil _ _)
      · rw [if_neg hblank] at h ⊢
        obtain ⟨hhere, hrest⟩ := List.append_eq_nil_iff.mp h
        obtain ⟨hfree, hfresh⟩ := free_of_checks hhere
        obtain ⟨haccepts, hseen⟩ := ih hrest
        refine ⟨.cons hfresh hfree haccepts, ?_⟩
        show (c.aliasErrors poolName (insert (trimmed name) seen) rest).2 = _
        rw [hseen, List.map_cons, List.toFinset_cons, Finset.union_insert, Finset.insert_union]

/-- The members of a pool that the validator lets through. -/
def MembersKnown (c : PoolSetting) (pool : ModelPoolConfig) : Prop :=
  pool.members ≠ [] ∧ ∀ member ∈ pool.members, trimmed member ∈ c.providerNames

theorem memberErrors_known {member : String} (h : c.memberErrors poolName member = []) :
    trimmed member ∈ c.providerNames := by
  unfold memberErrors at h
  by_cases hblank : trimmed member = ""
  · rw [if_pos hblank] at h
    exact absurd h (List.cons_ne_nil _ _)
  · rw [if_neg hblank, reject_eq_nil, decide_eq_false_iff_not, not_not] at h
    exact h

theorem poolErrors_accepts {pool : ModelPoolConfig} (h : (c.poolErrors seen pool).1 = []) :
    c.Accepts seen pool.readIds ∧ c.MembersKnown pool ∧
      (c.poolErrors seen pool).2 = seen ∪ pool.readIds.toFinset := by
  unfold poolErrors at h ⊢
  obtain ⟨hhere, haliases⟩ := List.append_eq_nil_iff.mp h
  obtain ⟨hhere, hmembers⟩ := List.append_eq_nil_iff.mp hhere
  obtain ⟨hhere, -⟩ := List.append_eq_nil_iff.mp hhere
  obtain ⟨hhere, hnonempty⟩ := List.append_eq_nil_iff.mp hhere
  obtain ⟨hfree, hfresh⟩ := free_of_checks hhere
  obtain ⟨haccepts, hseen⟩ := aliasErrors_accepts haliases
  have hids : pool.readIds = trimmed pool.name :: pool.aliases.map trimmed := rfl
  refine ⟨hids ▸ .cons hfresh hfree haccepts, ⟨?_, ?_⟩, ?_⟩
  · intro hempty
    rw [hempty, reject_eq_nil] at hnonempty
    exact Bool.noConfusion hnonempty
  · intro member hmember
    exact memberErrors_known (List.flatMap_eq_nil_iff.mp hmembers member hmember)
  · show (c.aliasErrors (trimmed pool.name) (insert (trimmed pool.name) seen) pool.aliases).2 = _
    rw [hseen, hids, List.toFinset_cons, Finset.union_insert, Finset.insert_union]

/-- What the pools of an accepted configuration have in common. -/
theorem validateModelPools_accepts {pools : List ModelPoolConfig}
    (h : (c.validateModelPools names seen pools).1 = []) :
    c.Accepts seen (pools.flatMap ModelPoolConfig.readIds) ∧
      (∀ pool ∈ pools, c.MembersKnown pool) ∧
      (c.validateModelPools names seen pools).2 =
        seen ∪ (pools.flatMap ModelPoolConfig.readIds).toFinset := by
  induction pools generalizing names seen with
  | nil => exact ⟨.nil, by simp, by simp [validateModelPools]⟩
  | cons pool rest ih =>
      unfold validateModelPools at h ⊢
      by_cases hblank : trimmed pool.name = ""
      · rw [if_pos hblank] at h
        exact absurd h (List.cons_ne_nil _ _)
      · rw [if_neg hblank] at h ⊢
        by_cases htaken : trimmed pool.name ∈ names
        · rw [if_pos htaken] at h
          exact absurd h (List.cons_ne_nil _ _)
        · rw [if_neg htaken] at h ⊢
          obtain ⟨hhere, hrest⟩ := List.append_eq_nil_iff.mp h
          obtain ⟨haccepts, hmembers, hseen⟩ := poolErrors_accepts hhere
          obtain ⟨hlater, hmembersLater, hseenLater⟩ := ih hrest
          rw [hseen] at hlater hseenLater
          rw [List.flatMap_cons]
          refine ⟨haccepts.append hlater, ?_, ?_⟩
          · intro p hp
            rcases List.mem_cons.mp hp with rfl | hp
            · exact hmembers
            · exact hmembersLater p hp
          · show (c.validateModelPools (insert (trimmed pool.name) names) (c.poolErrors seen pool).2
              rest).2 = _
            rw [hseen, hseenLater, List.toFinset_append, Finset.union_assoc]

end PoolSetting

theorem validateEachProvider_nodup {gateway : GatewayConfig} {names : Finset String}
    {providers : List ProviderConfig} (h : validateEachProvider gateway names providers = []) :
    (providers.map ProviderConfig.name).Nodup ∧
      ∀ provider ∈ providers, provider.name ∉ names := by
  induction providers generalizing names with
  | nil => exact ⟨List.nodup_nil, by simp⟩
  | cons provider rest ih =>
      unfold validateEachProvider at h
      by_cases hblank : isBlank provider.name = true
      · rw [if_pos hblank] at h
        exact absurd h (List.cons_ne_nil _ _)
      · rw [if_neg hblank, List.append_eq_nil_iff, List.append_eq_nil_iff, reject_eq_nil,
          decide_eq_false_iff_not] at h
        obtain ⟨hfresh, -, hrest⟩ := h
        obtain ⟨hnodup, hlater⟩ := ih hrest
        rw [List.map_cons, List.nodup_cons]
        refine ⟨⟨fun hmem => ?_, hnodup⟩, fun p hp => ?_⟩
        · obtain ⟨p, hp, hname⟩ := List.mem_map.mp hmem
          exact hlater p hp (hname ▸ Finset.mem_insert_self _ _)
        · rcases List.mem_cons.mp hp with rfl | hp
          · exact hfresh
          · exact fun hmem => hlater p hp (Finset.mem_insert_of_mem hmem)

theorem validateModelAliases_target {aliases : OrdMap String String} {target : String}
    (h : validateModelAliases aliases = []) (htarget : target ∈ aliases.values) :
    isBlank target = false := by
  obtain ⟨⟨name, found⟩, hentry, rfl⟩ := List.mem_map.mp htarget
  have hchecks := List.flatMap_eq_nil_iff.mp h (name, found) hentry
  exact reject_eq_nil.mp (List.append_eq_nil_iff.mp hchecks).2

namespace AppConfig

variable {config : AppConfig}

structure Accepted (config : AppConfig) : Prop where
  pools : config.poolSetting.Accepts ∅ (config.modelPools.flatMap ModelPoolConfig.readIds)
  members : ∀ pool ∈ config.modelPools, config.poolSetting.MembersKnown pool
  targets : ∀ target ∈ config.gateway.modelAliases.values,
    target ∈ config.poolSetting.providerModels ∨
      target ∈ config.modelPools.flatMap ModelPoolConfig.readIds
  names_nodup : (config.providers.map ProviderConfig.name).Nodup

theorem errors_eq_nil (h : config.validate = .ok ()) : config.errors = [] := by
  unfold validate at h
  by_cases hempty : config.errors.isEmpty = true
  · exact List.isEmpty_iff.mp hempty
  · rw [if_neg hempty] at h
    exact absurd h (by simp)

theorem accepted_of_validate (h : config.validate = .ok ()) : config.Accepted := by
  have herrors := errors_eq_nil h
  unfold errors validateProviders validateGatewayConfig at herrors
  simp only [List.append_eq_nil_iff] at herrors
  obtain ⟨⟨⟨⟨⟨-, -, haliases⟩, -⟩, -⟩, -⟩, ⟨⟨-, hpools⟩, htargets⟩, hproviders⟩ := herrors
  obtain ⟨haccepts, hmembers, hseen⟩ := PoolSetting.validateModelPools_accepts hpools
  refine ⟨haccepts, hmembers, fun target htarget => ?_, (validateEachProvider_nodup hproviders).1⟩
  have hcheck := reject_eq_nil.mp (List.flatMap_eq_nil_iff.mp htargets target htarget)
  rw [validateModelAliases_target haliases htarget, Bool.not_false, Bool.true_and,
    Bool.not_eq_false', decide_eq_true_iff] at hcheck
  rcases hcheck with hmodel | hpool
  · exact .inl hmodel
  · right
    have hmem : target ∈ ∅ ∪ (config.modelPools.flatMap ModelPoolConfig.readIds).toFinset :=
      hseen ▸ hpool
    rw [Finset.empty_union, List.mem_toFinset] at hmem
    exact hmem

/-- Ids that are read apart are written apart. -/
theorem Accepted.distinctIds (h : config.Accepted) :
    ModelPoolIndex.DistinctIds config.modelPools := by
  have hnodup := (List.nodup_flatMap.mp h.pools.nodup).2
  apply hnodup.imp
  intro c d hcd id hc hd
  exact hcd (List.mem_map_of_mem hc) (List.mem_map_of_mem hd)

theorem Accepted.trimmed_free (h : config.Accepted) {pool : ModelPoolConfig} {id : String}
    (hpool : pool ∈ config.modelPools) (hid : id ∈ pool.publicIds) :
    config.poolSetting.Free (trimmed id) :=
  h.pools.free _ (List.mem_flatMap.mpr ⟨pool, hpool, List.mem_map_of_mem hid⟩)

end AppConfig
end RustyGate
