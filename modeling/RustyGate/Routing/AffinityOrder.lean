/-
Who comes first when requests follow their prefixes.

A request on the affinity path leaves it by one of six exits, and `AffinityExit` says which
one and with which order.  Three of them only move a provider to the front.  The exit for an
open circuit sorts again, by priority and name, and so forgets the order of the fallback
policy.  The exit for recent errors does not look at circuits or loads at all, and the exit
for unbalanced loads adds errors and circuits to the loads, so that an open circuit or a busy
provider can still come first.
-/
import RustyGate.Routing.Affinity

namespace RustyGate

/-! ## The affinity path -/

/-- The provider that the index remembers for the prefix. -/
def PrefixAffinityRouting.previousProvider (affinity : PrefixAffinityRouting) : Option String :=
  affinity.fingerprint.fingerprint.bind fun fingerprint =>
    (affinity.index.lookup affinity.now fingerprint).1

/-- A request for a pool with several members under the affinity policy, with a fingerprint
of high confidence. -/
structure AffinityRequest (routingPolicy : RoutingPolicy) (modelPools : ModelPoolIndex)
    (model : String) (affinity : PrefixAffinityRouting) : Prop where
  policy : effectiveRoutingPolicy (some model) routingPolicy modelPools = .prefixAffinity
  pool : ∃ pool, modelPools.poolForPublicModel model = some pool ∧ 1 < pool.members.card
  fingerprint : affinity.fingerprint.isHighConfidence = true

/-- The providers whose circuit is not open. -/
def healthyProviders (resilience : Option ResilienceRegistry) (candidates : List ProviderEntry) :
    List ProviderEntry :=
  candidates.filter fun entry => !isOpenCircuit resilience entry

section Exits

variable (metricsSnapshot : Option MetricsSnapshot) (resilience : Option ResilienceRegistry)
  (threshold : UInt64) (baseline : List ProviderEntry) (previousProvider : Option String)

/-- The ways to leave the affinity path if some circuit is not open: the candidates, and the
reason. -/
inductive AffinityExit : List ProviderEntry → String → Prop
  | circuitOpen {previous : String} (hprevious : previousProvider = some previous)
      (hopen : ∀ entry ∈ healthyProviders resilience baseline, entry.name ≠ previous) :
      AffinityExit (orderOpenCircuitsLast baseline resilience) "circuit_open"
  | recentErrors {previous : String} (hprevious : previousProvider = some previous)
      (hhealthy : ∃ entry ∈ healthyProviders resilience baseline, entry.name = previous)
      (herrors : providerHasRecentErrors metricsSnapshot previous = true) :
      AffinityExit baseline "fallback"
  | hit {previous : String} (hprevious : previousProvider = some previous)
      (hhealthy : ∃ entry ∈ healthyProviders resilience baseline, entry.name = previous)
      (herrors : providerHasRecentErrors metricsSnapshot previous = false)
      (hload : loadWithinThreshold metricsSnapshot previous
        (healthyProviders resilience baseline) threshold = true) :
      AffinityExit (moveProviderToFront baseline previous) "prefix_hit"
  | loadImbalanced {previous : String} (hprevious : previousProvider = some previous)
      (hhealthy : ∃ entry ∈ healthyProviders resilience baseline, entry.name = previous)
      (herrors : providerHasRecentErrors metricsSnapshot previous = false)
      (hload : loadWithinThreshold metricsSnapshot previous
        (healthyProviders resilience baseline) threshold = false) :
      AffinityExit (orderByLoadThenBaseline baseline metricsSnapshot resilience)
        "load_imbalanced"
  | miss {selected : ProviderEntry}
      (hprevious : ∀ previous, previousProvider = some previous →
        ∀ entry ∈ baseline, entry.name ≠ previous)
      (hselected : selected ∈ healthyProviders resilience baseline) :
      AffinityExit (moveProviderToFront baseline selected.name) "prefix_miss"

end Exits

theorem maxBy_mem {α : Type} {greater : α → α → Bool} {l : List α} {a : α}
    (h : maxBy greater l = some a) : a ∈ l := by
  cases l with
  | nil => cases h
  | cons first rest =>
      obtain rfl := Option.some.inj h
      clear h
      induction rest generalizing first with
      | nil => exact List.mem_singleton_self first
      | cons next rest ih =>
          rw [List.foldl_cons]
          have hmem := ih (if greater first next then first else next)
          rcases List.mem_cons.mp hmem with heq | hrest
          · rw [heq]
            by_cases hgreater : greater first next = true
            · rw [if_pos hgreater]
              exact List.mem_cons_self
            · rw [if_neg hgreater]
              exact List.mem_cons_of_mem _ List.mem_cons_self
          · exact List.mem_cons_of_mem _ (List.mem_cons_of_mem _ hrest)

variable {candidates : List ProviderEntry} {resilience : Option ResilienceRegistry}
  {entry : ProviderEntry}

theorem healthyProviders_isEmpty :
    (healthyProviders resilience candidates).isEmpty = true ↔
      ∀ entry ∈ candidates, isOpenCircuit resilience entry = true := by
  simp [healthyProviders, List.isEmpty_iff, List.filter_eq_nil_iff]

theorem mem_healthyProviders :
    entry ∈ healthyProviders resilience candidates ↔
      entry ∈ candidates ∧ isOpenCircuit resilience entry = false := by
  simp [healthyProviders, List.mem_filter]

section Selection

variable {sha256 : String → BitVec 256} {providers : List ProviderEntry} {model : String}
  {routingPolicy : RoutingPolicy} {metricsSnapshot : Option MetricsSnapshot}
  {modelPools : ModelPoolIndex} {resilience : Option ResilienceRegistry}
  {affinity : PrefixAffinityRouting} {threshold : UInt64} {snapshot : MetricsSnapshot}
  {baseline candidates : List ProviderEntry}

theorem affinityCandidates_exit {fingerprint : String} {baseline : List ProviderEntry}
    (previousProvider : Option String) (hhealthy : healthyProviders resilience baseline ≠ []) :
    let result := affinityCandidates sha256 metricsSnapshot resilience threshold fingerprint
      baseline (healthyProviders resilience baseline) previousProvider
    AffinityExit metricsSnapshot resilience threshold baseline previousProvider result.1
      result.2 := by
  intro result
  simp only [result, affinityCandidates]
  cases hfilter : previousProvider.filter fun name =>
      baseline.any fun entry => entry.name == name with
  | none =>
      have hprevious : ∀ previous, previousProvider = some previous →
          ∀ entry ∈ baseline, entry.name ≠ previous := by
        intro previous hprevious entry hentry hname
        have hany := Option.filter_eq_none_iff.mp hfilter previous hprevious
        exact hany (List.any_eq_true.mpr ⟨entry, hentry, beq_iff_eq.mpr hname⟩)
      cases hselected : rendezvousProvider sha256 fingerprint
          (healthyProviders resilience baseline) with
      | none =>
          obtain ⟨first, rest, hcons⟩ := List.exists_cons_of_ne_nil hhealthy
          rw [hcons] at hselected
          cases hselected
      | some selected => exact .miss hprevious (maxBy_mem hselected)
  | some previous =>
      have hprevious : previousProvider = some previous :=
        (Option.filter_eq_some_iff.mp hfilter).1
      simp only
      split
      · next hall =>
          refine .circuitOpen hprevious fun entry hentry => ?_
          simpa using List.all_eq_true.mp hall entry hentry
      · next hall =>
          have hmem : ∃ entry ∈ healthyProviders resilience baseline,
              entry.name = previous := by
            simpa using hall
          split
          · next herrors => exact .recentErrors hprevious hmem herrors
          · next herrors =>
              have hno := Bool.eq_false_iff.mpr herrors
              split
              · next hload => exact .hit hprevious hmem hno hload
              · next hload =>
                  exact .loadImbalanced hprevious hmem hno (Bool.eq_false_iff.mpr hload)

namespace AffinityRequest

/-- What is selected on the affinity path. -/
theorem selection_eq (h : AffinityRequest routingPolicy modelPools model affinity) :
    let baseline := candidateProvidersForPolicy providers (some model)
      affinity.config.fallbackPolicy metricsSnapshot modelPools resilience
    let selection := (candidateProvidersWithAffinity sha256 providers (some model) routingPolicy
      metricsSnapshot modelPools resilience (some affinity)).1
    ∃ fingerprint, (selection.candidates, selection.reason) =
      if baseline.isEmpty then (baseline, "no_provider")
      else if (healthyProviders resilience baseline).isEmpty then
        (orderOpenCircuitsLast baseline resilience, "circuit_open")
      else affinityCandidates sha256 metricsSnapshot resilience
        affinity.config.loadImbalanceThreshold fingerprint baseline
        (healthyProviders resilience baseline) affinity.previousProvider := by
  intro baseline selection
  obtain ⟨pool, hpool, hcard⟩ := h.pool
  obtain ⟨fingerprint, hfingerprint⟩ : ∃ fingerprint,
      affinity.fingerprint.fingerprint = some fingerprint := by
    have hhigh := h.fingerprint
    rw [PrefixFingerprintResult.isHighConfidence, Bool.and_eq_true] at hhigh
    exact Option.isSome_iff_exists.mp hhigh.2
  have hsmall : (pool.members.card ≤ 1 || !affinity.fingerprint.isHighConfidence) = false := by
    simp [h.fingerprint, hcard]
  refine ⟨fingerprint, ?_⟩
  simp only [selection, candidateProvidersWithAffinity, h.policy, hpool, hfingerprint, hsmall,
    PrefixAffinityRouting.previousProvider, Option.bind_some, healthyProviders]
  split
  · contradiction
  · split
    · contradiction
    · split
      · rfl
      · split
        · rfl
        · rfl

/-- With some circuit not open, the selection leaves by one of the exits. -/
theorem exit (h : AffinityRequest routingPolicy modelPools model affinity)
    (hhealthy : ∃ entry ∈ eligibleProviders providers (some model) modelPools,
      isOpenCircuit resilience entry = false) :
    let selection := (candidateProvidersWithAffinity sha256 providers (some model) routingPolicy
      metricsSnapshot modelPools resilience (some affinity)).1
    AffinityExit metricsSnapshot resilience affinity.config.loadImbalanceThreshold
      (candidateProvidersForPolicy providers (some model) affinity.config.fallbackPolicy
        metricsSnapshot modelPools resilience)
      affinity.previousProvider selection.candidates selection.reason := by
  intro selection
  obtain ⟨entry, hentry, hclosed⟩ := hhealthy
  obtain ⟨fingerprint, heq⟩ := @selection_eq sha256 providers model routingPolicy metricsSnapshot
    modelPools resilience affinity h
  have hmem := (@candidateProvidersForPolicy_perm providers (some model) metricsSnapshot
    modelPools resilience affinity.config.fallbackPolicy).mem_iff.mpr hentry
  have hhealthy := List.ne_nil_of_mem (mem_healthyProviders.mpr ⟨hmem, hclosed⟩)
  rw [if_neg (by simpa using List.ne_nil_of_mem hmem), if_neg (by simpa using hhealthy)] at heq
  have hexit := @affinityCandidates_exit sha256 metricsSnapshot resilience
    affinity.config.loadImbalanceThreshold fingerprint _ affinity.previousProvider hhealthy
  rw [← heq] at hexit
  exact hexit

/-- With every circuit open there is no affinity. -/
theorem reason_of_open (h : AffinityRequest routingPolicy modelPools model affinity)
    (hopen : ∀ entry ∈ eligibleProviders providers (some model) modelPools,
      isOpenCircuit resilience entry = true) :
    let selection := (candidateProvidersWithAffinity sha256 providers (some model) routingPolicy
      metricsSnapshot modelPools resilience (some affinity)).1
    healthyProviders resilience (candidateProvidersForPolicy providers (some model)
        affinity.config.fallbackPolicy metricsSnapshot modelPools resilience) = [] ∧
      (selection.reason = "no_provider" ∨ selection.reason = "circuit_open") := by
  intro selection
  obtain ⟨fingerprint, heq⟩ := @selection_eq sha256 providers model routingPolicy metricsSnapshot
    modelPools resilience affinity h
  have hperm := @candidateProvidersForPolicy_perm providers (some model) metricsSnapshot
    modelPools resilience affinity.config.fallbackPolicy
  have hempty := healthyProviders_isEmpty.mpr fun entry hentry =>
    hopen entry (hperm.mem_iff.mp hentry)
  refine ⟨List.isEmpty_iff.mp hempty, ?_⟩
  rw [if_pos hempty] at heq
  split at heq
  · exact .inl (congrArg Prod.snd heq)
  · exact .inr (congrArg Prod.snd heq)

end AffinityRequest

/-! ## A pool of replicas -/

def replicaPool (members : List String) : ModelPoolIndex := ModelPoolIndex.fromConfigs
  [{ name := "chat", routingPolicy := some .prefixAffinity, members := members }]

def replica (name : String) (priority : UInt32) : ProviderEntry :=
  { name := name, model := "m", priority := priority }

/-- A request whose prefix was served by `previous` before. -/
def remembered (previous : String) (fallbackPolicy : RoutingPolicy) : PrefixAffinityRouting where
  index := (PrefixAffinityIndex.new {}).record 0 "v1:0" previous
  config := { fallbackPolicy := fallbackPolicy }
  fingerprint := ⟨some "v1:0", .high⟩
  now := 1

theorem remembered_request {members : List String}
    (hpool : ((replicaPool members).poolForPublicModel "chat").any fun pool =>
      pool.routingPolicy = some .prefixAffinity ∧ 1 < pool.members.card)
    (previous : String) (fallbackPolicy : RoutingPolicy) :
    AffinityRequest .priority (replicaPool members) "chat"
      (remembered previous fallbackPolicy) := by
  obtain ⟨pool, hfound, hpool⟩ := (Option.any_eq_true ..).mp hpool
  obtain ⟨hpolicy, hcard⟩ := of_decide_eq_true hpool
  refine ⟨?_, ⟨pool, hfound, hcard⟩, rfl⟩
  rw [effectiveRoutingPolicy, Option.bind_some, hfound, Option.bind_some, hpolicy]
  rfl

theorem remembered_previous (previous : String) (fallbackPolicy : RoutingPolicy) :
    (remembered previous fallbackPolicy).previousProvider = some previous := by
  rfl

/-- The circuits after a failure at one provider, where one failure opens a circuit. -/
def afterFailure (provider : String) : ResilienceRegistry :=
  (ResilienceRegistry.new { breaker := { failureThreshold := 1 } } (fun _ => none)
    []).recordFailure 0 provider

/-- The counters after a failure at one provider. -/
def countedFailure (provider : String) : MetricsRegistry :=
  MetricsRegistry.record {}
    (.recordChatFailure 5 [⟨provider, 1, 5, false, false, some .timeout⟩] (some "timeout"))

/-- The counters after an answer of one provider. -/
def countedSuccess (provider : String) (latencyMs : UInt64) (m : MetricsRegistry) :
    MetricsRegistry :=
  m.record (.recordChatSuccess provider {} ⟨0, 0, 0⟩ latencyMs
    [⟨provider, 1, latencyMs, true, false, none⟩])

/-- Three more calls in flight at a provider. -/
def busyAt (provider : String) (m : MetricsRegistry) : MetricsRegistry :=
  (List.replicate 3 (.beginProviderRequest provider 1)).foldl MetricsRegistry.record m

theorem candidateProvidersForPolicy_of_sorted {policy : RoutingPolicy}
    (hfilter : providers.filter (ProviderEntry.eligible modelPools model) = providers)
    (hsorted : providers.Pairwise fun left right =>
      candidateOrder policy metricsSnapshot resilience left right = true) :
    candidateProvidersForPolicy providers (some model) policy metricsSnapshot modelPools
      resilience = providers := by
  rw [candidateProvidersForPolicy, hfilter]
  exact List.mergeSort_of_pairwise hsorted

theorem replicas_by_priority (previous : String) :
    candidateProvidersForPolicy [replica "a" 1, replica "b" 2] (some "chat")
      (remembered previous .priority).config.fallbackPolicy metricsSnapshot
      (replicaPool ["a", "b"]) resilience = [replica "a" 1, replica "b" 2] := by
  apply candidateProvidersForPolicy_of_sorted (by decide +kernel)
  rw [List.pairwise_pair]
  rfl

/-! ## The first candidate -/

theorem isOpenCircuit_congr {a b : ProviderEntry} (h : a.name = b.name) :
    isOpenCircuit resilience a = isOpenCircuit resilience b := by
  rw [isOpenCircuit, isOpenCircuit, h]

theorem moveProviderToFront_eq (candidates : List ProviderEntry) (providerName : String) :
    moveProviderToFront candidates providerName =
      candidates.filter (fun entry => entry.name == providerName) ++
        candidates.filter (fun entry => !(entry.name == providerName)) := by
  rw [moveProviderToFront, List.partition_eq_filter_filter]
  rfl

theorem moveProviderToFront_head (hentry : entry ∈ candidates) :
    ∃ first, (moveProviderToFront candidates entry.name).head? = some first ∧
      first.name = entry.name := by
  have hmem : entry ∈ candidates.filter fun e => e.name == entry.name :=
    List.mem_filter.mpr ⟨hentry, beq_self_eq_true entry.name⟩
  obtain ⟨first, rest, hcons⟩ := List.exists_cons_of_ne_nil (List.ne_nil_of_mem hmem)
  refine ⟨first, by rw [moveProviderToFront_eq, hcons]; rfl, ?_⟩
  have hfirst : first ∈ candidates.filter fun e => e.name == entry.name := by
    rw [hcons]
    exact List.mem_cons_self
  exact beq_iff_eq.mp (List.mem_filter.mp hfirst).2

theorem openLastOrder_byKey :
    ByKey (openLastOrder resilience) fun entry =>
      toLex ((isOpenCircuit resilience entry).toNat,
        toLex (entry.priority.toNat, entry.name)) := by
  intro left right
  simp only [openLastOrder, Prod.Lex.toLex_le_toLex]
  by_cases hpriority : left.priority = right.priority
  · cases isOpenCircuit resilience left <;> cases isOpenCircuit resilience right <;>
      simp [hpriority]
  · cases isOpenCircuit resilience left <;> cases isOpenCircuit resilience right <;>
      simp [hpriority, UInt32.lt_iff_toNat_lt, UInt32.toNat_inj]

theorem loadOrder_byKey (baseline : List ProviderEntry) :
    ByKey (loadOrder baseline metricsSnapshot resilience) fun entry =>
      toLex (loadScore metricsSnapshot resilience entry,
        toLex (baselinePosition baseline entry.name, entry.name)) := by
  intro left right
  simp only [loadOrder, Prod.Lex.toLex_le_toLex]
  by_cases hscore : loadScore metricsSnapshot resilience left =
      loadScore metricsSnapshot resilience right
  · by_cases hposition : baselinePosition baseline left.name = baselinePosition baseline right.name
    · simp [hscore, hposition]
    · simp [hscore, hposition]
  · simp [hscore]

/-- The open circuits come last. -/
theorem orderOpenCircuitsLast_head (hentry : entry ∈ healthyProviders resilience candidates) :
    ∃ first, (orderOpenCircuitsLast candidates resilience).head? = some first ∧
      isOpenCircuit resilience first = false := by
  obtain ⟨hmem, hclosed⟩ := mem_healthyProviders.mp hentry
  apply (openLastOrder_byKey.head_iff ?_).mpr
  · refine ⟨entry, hmem, hclosed, fun other _ hopen => Prod.Lex.toLex_le_toLex.mpr (.inl ?_)⟩
    rw [Bool.not_eq_false] at hopen
    rw [hclosed, hopen]
    exact Nat.one_pos
  · intro a b hkey ha
    have hname : a.name = b.name := congrArg (fun key => (ofLex (ofLex key).2).2) hkey
    exact (isOpenCircuit_congr hname).symm.trans ha

/-- What holds of the first provider by load, if the name decides it. -/
theorem orderByLoadThenBaseline_head_iff {p : ProviderEntry → Prop}
    (hp : ∀ a b : ProviderEntry, a.name = b.name → p a → p b) :
    (∃ first, (orderByLoadThenBaseline candidates metricsSnapshot resilience).head? = some first ∧
        p first) ↔
      ∃ entry ∈ candidates, p entry ∧ ∀ other ∈ candidates, ¬ p other →
        loadOrder candidates metricsSnapshot resilience entry other = true := by
  rw [orderByLoadThenBaseline, (loadOrder_byKey candidates).head_iff]
  · simp only [loadOrder_byKey candidates _ _]
  · intro a b hkey
    exact hp a b (congrArg (fun key => (ofLex (ofLex key).2).2) hkey)

section Exit

variable {threshold : UInt64} {baseline candidates : List ProviderEntry}
  {previousProvider : Option String} {reason : String}

/-- After which exits the circuit of the first candidate is not open. -/
theorem AffinityExit.head_closed_iff
    (hexit : AffinityExit metricsSnapshot resilience threshold baseline previousProvider
      candidates reason)
    (hhealthy : ∃ entry, entry ∈ healthyProviders resilience baseline) :
    (∃ first, candidates.head? = some first ∧ isOpenCircuit resilience first = false) ↔
      ∀ previous, previousProvider = some previous →
        (∃ entry ∈ healthyProviders resilience baseline, entry.name = previous) →
        if providerHasRecentErrors metricsSnapshot previous then
          ∃ first, baseline.head? = some first ∧ isOpenCircuit resilience first = false
        else
          loadWithinThreshold metricsSnapshot previous (healthyProviders resilience baseline)
              threshold = true ∨
            ∃ entry ∈ healthyProviders resilience baseline, ∀ other ∈ baseline,
              isOpenCircuit resilience other = true →
              loadOrder baseline metricsSnapshot resilience entry other = true := by
  cases hexit with
  | circuitOpen hprevious hopen =>
      obtain ⟨entry, hentry⟩ := hhealthy
      refine iff_of_true (orderOpenCircuitsLast_head hentry) ?_
      rintro previous hprevious' ⟨other, hother, hname⟩
      obtain rfl := Option.some.inj (hprevious.symm.trans hprevious')
      exact absurd hname (hopen other hother)
  | recentErrors hprevious hmem herrors =>
      simp only [hprevious, Option.some.injEq, forall_eq', hmem, true_imp_iff, herrors, if_true]
  | hit hprevious hmem herrors hload =>
      obtain ⟨entry, hentry, rfl⟩ := hmem
      obtain ⟨hin, hclosed⟩ := mem_healthyProviders.mp hentry
      obtain ⟨first, hhead, hname⟩ := moveProviderToFront_head hin
      refine iff_of_true ⟨first, hhead, (isOpenCircuit_congr hname).trans hclosed⟩ ?_
      intro previous hprevious' _
      obtain rfl := Option.some.inj (hprevious.symm.trans hprevious')
      rw [herrors, if_neg Bool.false_ne_true]
      exact .inl hload
  | loadImbalanced hprevious hmem herrors hload =>
      rw [orderByLoadThenBaseline_head_iff fun a b hname ha =>
        (isOpenCircuit_congr hname).symm.trans ha]
      simp only [hprevious, Option.some.injEq, forall_eq', hmem, true_imp_iff, herrors,
        Bool.false_eq_true, if_false, hload, false_or]
      simp only [mem_healthyProviders, and_assoc, Bool.not_eq_false]
  | miss hprevious hselected =>
      obtain ⟨hin, hclosed⟩ := mem_healthyProviders.mp hselected
      obtain ⟨first, hhead, hname⟩ := moveProviderToFront_head hin
      refine iff_of_true ⟨first, hhead, (isOpenCircuit_congr hname).trans hclosed⟩ ?_
      rintro previous hprevious' ⟨entry, hentry, hname⟩
      exact absurd hname (hprevious previous hprevious' entry (mem_healthyProviders.mp hentry).1)

end Exit

/-- If some circuit is not open, the circuit of the first candidate is not open exactly if the
exits that do not sort by circuits happen to have such a first candidate. -/
theorem first_not_open_iff (h : AffinityRequest routingPolicy modelPools model affinity)
    (hhealthy : ∃ entry ∈ eligibleProviders providers (some model) modelPools,
      isOpenCircuit resilience entry = false) :
    let baseline := candidateProvidersForPolicy providers (some model)
      affinity.config.fallbackPolicy metricsSnapshot modelPools resilience
    let healthy := healthyProviders resilience baseline
    let candidates := (candidateProvidersWithAffinity sha256 providers (some model) routingPolicy
      metricsSnapshot modelPools resilience (some affinity)).1.candidates
    (∃ first, candidates.head? = some first ∧ isOpenCircuit resilience first = false) ↔
      ∀ previous, affinity.previousProvider = some previous →
        (∃ entry ∈ healthy, entry.name = previous) →
        if providerHasRecentErrors metricsSnapshot previous then
          ∃ first, baseline.head? = some first ∧ isOpenCircuit resilience first = false
        else
          loadWithinThreshold metricsSnapshot previous healthy
              affinity.config.loadImbalanceThreshold = true ∨
            ∃ entry ∈ healthy, ∀ other ∈ baseline, isOpenCircuit resilience other = true →
              loadOrder baseline metricsSnapshot resilience entry other = true := by
  intro baseline healthy candidates
  obtain ⟨entry, hentry, hclosed⟩ := hhealthy
  have hmem : entry ∈ baseline :=
    (candidateProvidersForPolicy_perm affinity.config.fallbackPolicy).mem_iff.mpr hentry
  exact (h.exit ⟨entry, hentry, hclosed⟩).head_closed_iff
    ⟨entry, mem_healthyProviders.mpr ⟨hmem, hclosed⟩⟩

/-- The provider that served the prefix before goes ahead of one whose circuit is open. -/
theorem first_not_open_remembered :
    let resilience := some (afterFailure "a")
    ∃ first, (candidateProvidersWithAffinity (fun _ => 0) [replica "a" 1, replica "b" 2]
        (some "chat") .priority none (replicaPool ["a", "b"]) resilience
        (some (remembered "b" .priority))).1.candidates.head? = some first ∧
      isOpenCircuit resilience first = false := by
  intro resilience
  apply (first_not_open_iff (remembered_request (by decide +kernel) "b" .priority)
    (by decide +kernel)).mpr
  intro previous _ _
  have hnone : providerHasRecentErrors none previous = false := rfl
  rw [hnone, if_neg Bool.false_ne_true]
  exact .inl rfl

/-- The prefix was served by a provider that has had an error since, and the first provider
by priority has an open circuit. -/
theorem open_circuit_leads :
    let providers := [replica "a" 1, replica "b" 2]
    let resilience := some (afterFailure "a")
    (∃ entry ∈ eligibleProviders providers (some "chat") (replicaPool ["a", "b"]),
        isOpenCircuit resilience entry = false) ∧
      ¬ ∃ first, (candidateProvidersWithAffinity (fun _ => 0) providers (some "chat") .priority
          (some (countedFailure "b").snapshot) (replicaPool ["a", "b"]) resilience
          (some (remembered "b" .priority))).1.candidates.head? = some first ∧
        isOpenCircuit resilience first = false := by
  intro providers resilience
  have hhealthy : ∃ entry ∈ eligibleProviders providers (some "chat") (replicaPool ["a", "b"]),
      isOpenCircuit resilience entry = false := by decide +kernel
  have hexit := @AffinityRequest.exit (fun _ => 0) providers "chat" .priority
    (some (countedFailure "b").snapshot) (replicaPool ["a", "b"]) resilience _
    (remembered_request (by decide +kernel) "b" .priority) hhealthy
  rw [remembered_previous, replicas_by_priority] at hexit
  have hb : replica "b" 2 ∈ healthyProviders resilience [replica "a" 1, replica "b" 2] := by
    decide +kernel
  refine ⟨hhealthy, fun hfirst => ?_⟩
  have hbaseline := (hexit.head_closed_iff ⟨_, hb⟩).mp hfirst "b" rfl ⟨_, hb, rfl⟩
  rw [if_pos (by decide +kernel)] at hbaseline
  obtain ⟨first, hhead, hclosed⟩ := hbaseline
  obtain rfl := Option.some.inj hhead
  exact absurd hclosed (by decide +kernel)

/-! ## A busy provider -/

/-- The calls in flight or the queue of a provider are more than the threshold above those of
the least busy of some candidates. -/
def Overloaded (snapshot : MetricsSnapshot) (threshold : UInt64) (candidates : List ProviderEntry)
    (provider : String) : Prop :=
  (∃ entry ∈ candidates,
    providerInFlight snapshot entry.name + threshold.toNat < providerInFlight snapshot provider) ∨
  ∃ entry ∈ candidates, providerQueuePressure snapshot entry.name + threshold.toNat <
    providerQueuePressure snapshot provider

theorem saturatingAdd_min?_lt {f : ProviderEntry → Nat} (hentry : entry ∈ candidates) {x y : Nat}
    (hlt : f entry + x < y) :
    saturatingAdd ((candidates.map f).min?.getD 0) x < y := by
  have hmin : (candidates.map f).min?.getD 0 ≤ f entry :=
    List.min?_getD_le_of_mem (List.mem_map_of_mem hentry)
  unfold saturatingAdd
  omega

theorem Overloaded.not_within {provider : String}
    (h : Overloaded snapshot threshold candidates provider) :
    loadWithinThreshold (some snapshot) provider candidates threshold = false := by
  simp only [loadWithinThreshold, Bool.and_eq_false_iff, decide_eq_false_iff_not, Nat.not_le]
  rcases h with ⟨entry, hentry, hlt⟩ | ⟨entry, hentry, hlt⟩
  · exact .inl (saturatingAdd_min?_lt hentry hlt)
  · exact .inr (saturatingAdd_min?_lt hentry hlt)

/-- After which exits a busy provider that served the prefix before is not the first. -/
theorem AffinityExit.head_ne_iff {previous : ProviderEntry} {reason : String}
    (hexit : AffinityExit (some snapshot) resilience threshold baseline (some previous.name)
      candidates reason) (hhealthy : previous ∈ healthyProviders resilience baseline)
    (hover : Overloaded snapshot threshold (healthyProviders resilience baseline) previous.name) :
    (∃ first, candidates.head? = some first ∧ first.name ≠ previous.name) ↔
      if providerHasRecentErrors (some snapshot) previous.name then
        ∃ first, baseline.head? = some first ∧ first.name ≠ previous.name
      else
        ∃ entry ∈ baseline, entry.name ≠ previous.name ∧
          loadOrder baseline (some snapshot) resilience entry previous = true := by
  have hmem := (mem_healthyProviders.mp hhealthy).1
  generalize hsome : some previous.name = previousProvider at hexit
  cases hexit with
  | circuitOpen hprevious hopen =>
      obtain rfl := Option.some.inj (hsome.trans hprevious)
      exact absurd rfl (hopen previous hhealthy)
  | recentErrors hprevious _ herrors =>
      obtain rfl := Option.some.inj (hsome.trans hprevious)
      rw [herrors, if_pos rfl]
  | hit hprevious _ _ hload =>
      obtain rfl := Option.some.inj (hsome.trans hprevious)
      exact absurd hload (Bool.eq_false_iff.mp hover.not_within)
  | loadImbalanced hprevious _ herrors _ =>
      obtain rfl := Option.some.inj (hsome.trans hprevious)
      rw [herrors, if_neg Bool.false_ne_true,
        orderByLoadThenBaseline_head_iff fun a b hname ha => hname ▸ ha]
      simp only [not_not]
      refine exists_congr fun entry => and_congr_right fun _ => and_congr_right fun _ => ?_
      constructor
      · intro hall
        exact hall previous hmem rfl
      · intro hle other _ hname
        rw [loadOrder_byKey] at hle ⊢
        simp only [loadScore, isOpenCircuit, hname] at hle ⊢
        exact hle
  | miss hprevious _ => exact absurd rfl (hprevious previous.name hsome.symm previous hmem)

/-- A busy provider that served the prefix before is not the first candidate exactly if it is
not the first of the fallback policy, for one with recent errors, or if another one comes
before it by load, errors and circuit. -/
theorem overloaded_not_first_iff {previous : ProviderEntry}
    (h : AffinityRequest routingPolicy modelPools model affinity)
    (hprevious : affinity.previousProvider = some previous.name)
    (heligible : previous ∈ eligibleProviders providers (some model) modelPools)
    (hclosed : isOpenCircuit resilience previous = false) :
    let baseline := candidateProvidersForPolicy providers (some model)
      affinity.config.fallbackPolicy (some snapshot) modelPools resilience
    let candidates := (candidateProvidersWithAffinity sha256 providers (some model) routingPolicy
      (some snapshot) modelPools resilience (some affinity)).1.candidates
    Overloaded snapshot affinity.config.loadImbalanceThreshold
        (healthyProviders resilience baseline) previous.name →
      ((∃ first, candidates.head? = some first ∧ first.name ≠ previous.name) ↔
        if providerHasRecentErrors (some snapshot) previous.name then
          ∃ first, baseline.head? = some first ∧ first.name ≠ previous.name
        else
          ∃ entry ∈ baseline, entry.name ≠ previous.name ∧
            loadOrder baseline (some snapshot) resilience entry previous = true) := by
  intro baseline candidates hover
  have hmem : previous ∈ baseline :=
    (candidateProvidersForPolicy_perm affinity.config.fallbackPolicy).mem_iff.mpr heligible
  have hexit : AffinityExit (some snapshot) resilience affinity.config.loadImbalanceThreshold
      baseline affinity.previousProvider candidates _ := h.exit ⟨previous, heligible, hclosed⟩
  rw [hprevious] at hexit
  exact hexit.head_ne_iff (mem_healthyProviders.mpr ⟨hmem, hclosed⟩) hover

/-- An idle provider without errors goes ahead of a busy one. -/
theorem overloaded_not_first_idle :
    ∃ first, (candidateProvidersWithAffinity (fun _ => 0) [replica "a" 1, replica "b" 2]
        (some "chat") .priority (some (busyAt "b" {}).snapshot) (replicaPool ["a", "b"]) none
        (some (remembered "b" .priority))).1.candidates.head? = some first ∧
      first.name ≠ "b" := by
  have hb : replica "b" 2 ∈ eligibleProviders [replica "a" 1, replica "b" 2] (some "chat")
      (replicaPool ["a", "b"]) := by decide +kernel
  apply (overloaded_not_first_iff (remembered_request (by decide +kernel) "b" .priority)
    (remembered_previous "b" .priority) hb rfl ?_).mpr
  · rw [replicas_by_priority, if_neg (by decide +kernel)]
    exact ⟨replica "a" 1, List.mem_cons_self, by decide, by decide +kernel⟩
  · rw [replicas_by_priority]
    exact .inl ⟨replica "a" 1, by decide +kernel, by decide +kernel⟩

/-- A busy provider stays ahead of an idle one that has had an error. -/
theorem busy_provider_leads :
    let providers := [replica "a" 1, replica "b" 2]
    let snapshot := (busyAt "b" (countedFailure "a")).snapshot
    let affinity := remembered "b" .priority
    Overloaded snapshot affinity.config.loadImbalanceThreshold
        (healthyProviders none (candidateProvidersForPolicy providers (some "chat")
          affinity.config.fallbackPolicy (some snapshot) (replicaPool ["a", "b"]) none)) "b" ∧
      ¬ ∃ first, (candidateProvidersWithAffinity (fun _ => 0) providers (some "chat") .priority
          (some snapshot) (replicaPool ["a", "b"]) none (some affinity)).1.candidates.head? =
            some first ∧
        first.name ≠ "b" := by
  intro providers snapshot affinity
  have hexit := @AffinityRequest.exit (fun _ => 0) providers "chat" .priority (some snapshot)
    (replicaPool ["a", "b"]) none _ (remembered_request (by decide +kernel) "b" .priority)
    (by decide +kernel)
  rw [remembered_previous, replicas_by_priority] at hexit
  rw [replicas_by_priority]
  have hover : Overloaded snapshot affinity.config.loadImbalanceThreshold
      (healthyProviders none [replica "a" 1, replica "b" 2]) "b" :=
    .inl ⟨replica "a" 1, by decide +kernel, by decide +kernel⟩
  refine ⟨hover, fun hfirst => ?_⟩
  have hb : replica "b" 2 ∈ healthyProviders none [replica "a" 1, replica "b" 2] := by
    decide +kernel
  have hbefore := (hexit.head_ne_iff hb hover).mp hfirst
  rw [if_neg (by decide +kernel)] at hbefore
  exact absurd hbefore (by decide +kernel)

/-! ## The order of the fallback policy -/

theorem moveProviderToFront_others (candidates : List ProviderEntry) (providerName : String) :
    (moveProviderToFront candidates providerName).filter (fun entry => entry.name ≠ providerName) =
      candidates.filter fun entry => entry.name ≠ providerName := by
  have hnone : (candidates.filter fun entry => entry.name == providerName).filter
      (fun entry => entry.name ≠ providerName) = [] := by
    simp [List.filter_filter]
  have hall : (candidates.filter fun entry => !(entry.name == providerName)).filter
      (fun entry => entry.name ≠ providerName) =
      candidates.filter fun entry => entry.name ≠ providerName := by
    rw [List.filter_filter]
    apply List.filter_congr
    simp
  rw [moveProviderToFront_eq, List.filter_append, hnone, hall, List.nil_append]

/-- The healthy providers stay in front and in their order exactly if this is the order of
the priorities and names. -/
theorem orderOpenCircuitsLast_keeps_iff (candidates : List ProviderEntry) :
    healthyProviders resilience candidates <+: orderOpenCircuitsLast candidates resilience ↔
      (healthyProviders resilience candidates).Pairwise fun left right =>
        toLex (left.priority.toNat, left.name) ≤ toLex (right.priority.toNat, right.name) := by
  rw [healthyProviders, orderOpenCircuitsLast, openLastOrder_byKey.filter_at_front_iff]
  · apply List.Pairwise.iff_of_mem
    intro left right hleft hright
    rw [Prod.Lex.toLex_le_toLex]
    have hl := (mem_healthyProviders.mp hleft).2
    have hr := (mem_healthyProviders.mp hright).2
    simp [hl, hr]
  · intro left right hleft hright
    rw [Bool.not_eq_true'] at hleft
    rw [Bool.not_eq_false'] at hright
    rw [Prod.Lex.toLex_lt_toLex, hleft, hright]
    exact .inl Nat.one_pos

/-- The candidates behind the first one are in the order of the fallback policy. -/
def KeepsOthers (baseline candidates : List ProviderEntry) : Prop :=
  ∀ first, candidates.head? = some first →
    candidates.filter (fun entry => entry.name ≠ first.name) =
      baseline.filter fun entry => entry.name ≠ first.name

theorem moveProviderToFront_keepsOthers {baseline : List ProviderEntry} (hentry : entry ∈ baseline)
   :
    KeepsOthers baseline (moveProviderToFront baseline entry.name) := by
  intro first hfirst
  obtain ⟨first', hhead, hname⟩ := moveProviderToFront_head hentry
  obtain rfl := Option.some.inj (hfirst.symm.trans hhead)
  rw [hname]
  exact moveProviderToFront_others baseline entry.name

/-- Three exits keep the order of the fallback policy, and the one for an open circuit keeps it
exactly if it is the order of the priorities and names. -/
theorem AffinityExit.keeps_baseline_iff {previousProvider : Option String} {reason : String}
    (hexit : AffinityExit metricsSnapshot resilience threshold baseline previousProvider candidates
      reason) :
    ((reason ∈ ["prefix_hit", "prefix_miss", "fallback"] → KeepsOthers baseline candidates) ∧
        (reason = "circuit_open" → healthyProviders resilience baseline <+: candidates)) ↔
      (reason = "circuit_open" →
        (healthyProviders resilience baseline).Pairwise fun left right =>
          toLex (left.priority.toNat, left.name) ≤ toLex (right.priority.toNat, right.name)) := by
  cases hexit with
  | circuitOpen _ _ =>
      rw [← orderOpenCircuitsLast_keeps_iff]
      exact and_iff_right fun hreason => absurd hreason (by decide)
  | recentErrors _ _ _ =>
      exact iff_of_true ⟨fun _ _ _ => rfl, fun hreason => absurd hreason (by decide)⟩
        fun hreason => absurd hreason (by decide)
  | hit _ hmem _ _ =>
      obtain ⟨entry, hentry, rfl⟩ := hmem
      have hin := (mem_healthyProviders.mp hentry).1
      exact iff_of_true
        ⟨fun _ => moveProviderToFront_keepsOthers hin, fun hreason => absurd hreason (by decide)⟩
        fun hreason => absurd hreason (by decide)
  | loadImbalanced _ _ _ _ =>
      exact iff_of_true
        ⟨fun hreason => absurd hreason (by decide), fun hreason => absurd hreason (by decide)⟩
        fun hreason => absurd hreason (by decide)
  | miss _ hselected =>
      have hin := (mem_healthyProviders.mp hselected).1
      exact iff_of_true
        ⟨fun _ => moveProviderToFront_keepsOthers hin, fun hreason => absurd hreason (by decide)⟩
        fun hreason => absurd hreason (by decide)

/-- The exit if the circuit of the provider that served the prefix before is open. -/
theorem AffinityExit.reason_of_previous_open {previous reason : String}
    (hexit : AffinityExit metricsSnapshot resilience threshold baseline (some previous) candidates
      reason) (hmem : ∃ entry ∈ baseline, entry.name = previous)
    (hopen : ∀ entry ∈ healthyProviders resilience baseline, entry.name ≠ previous) :
    reason = "circuit_open" := by
  generalize hsome : some previous = previousProvider at hexit
  cases hexit with
  | circuitOpen _ _ => rfl
  | recentErrors hprevious hhealthy _ | hit hprevious hhealthy _ _
  | loadImbalanced hprevious hhealthy _ _ =>
      obtain rfl := Option.some.inj (hsome.trans hprevious)
      obtain ⟨entry, hentry, hname⟩ := hhealthy
      exact absurd hname (hopen entry hentry)
  | miss hprevious _ =>
      obtain ⟨entry, hentry, hname⟩ := hmem
      exact absurd hname (hprevious previous hsome.symm entry hentry)

/-- Affinity keeps the order of the fallback policy exactly if, where it leaves because of an
open circuit, this order is that of the priorities and names. -/
theorem affinity_keeps_order_iff (h : AffinityRequest routingPolicy modelPools model affinity) :
    let baseline := candidateProvidersForPolicy providers (some model)
      affinity.config.fallbackPolicy metricsSnapshot modelPools resilience
    let healthy := healthyProviders resilience baseline
    let selection := (candidateProvidersWithAffinity sha256 providers (some model) routingPolicy
      metricsSnapshot modelPools resilience (some affinity)).1
    ((selection.reason ∈ ["prefix_hit", "prefix_miss", "fallback"] →
          KeepsOthers baseline selection.candidates) ∧
        (selection.reason = "circuit_open" → healthy <+: selection.candidates)) ↔
      (selection.reason = "circuit_open" → healthy.Pairwise fun left right =>
        toLex (left.priority.toNat, left.name) ≤ toLex (right.priority.toNat, right.name)) := by
  intro baseline healthy selection
  by_cases hhealthy : ∃ entry ∈ eligibleProviders providers (some model) modelPools,
      isOpenCircuit resilience entry = false
  · exact (h.exit hhealthy).keeps_baseline_iff
  · have hopen : ∀ entry ∈ eligibleProviders providers (some model) modelPools,
        isOpenCircuit resilience entry = true := by
      intro entry hentry
      by_contra hclosed
      exact hhealthy ⟨entry, hentry, Bool.eq_false_iff.mpr hclosed⟩
    obtain ⟨hnone, hreason⟩ := h.reason_of_open hopen
    have hnot : selection.reason ∉ ["prefix_hit", "prefix_miss", "fallback"] := by
      rcases hreason with hreason | hreason
      · rw [hreason]
        decide
      · rw [hreason]
        decide
    have hhealthyNil : healthy = [] := hnone
    rw [hhealthyNil]
    exact iff_of_true ⟨fun hmem => absurd hmem hnot, fun _ => ⟨selection.candidates, rfl⟩⟩
      fun _ => List.Pairwise.nil

/-- With the priorities as the fallback, an open circuit does not change the order of the
others. -/
theorem affinity_keeps_order_priority :
    let providers := [replica "a" 1, replica "b" 2, replica "c" 3]
    let selection := (candidateProvidersWithAffinity (fun _ => 0) providers (some "chat") .priority
      none (replicaPool ["a", "b", "c"]) (some (afterFailure "c"))
      (some (remembered "c" .priority))).1
    selection.reason = "circuit_open" ∧
      [replica "a" 1, replica "b" 2] <+: selection.candidates := by
  intro providers selection
  have hrequest : AffinityRequest .priority (replicaPool ["a", "b", "c"]) "chat" _ :=
    remembered_request (by decide +kernel) "c" .priority
  have hbaseline : candidateProvidersForPolicy providers (some "chat")
      (remembered "c" .priority).config.fallbackPolicy none (replicaPool ["a", "b", "c"])
      (some (afterFailure "c")) = providers :=
    candidateProvidersForPolicy_of_sorted (by decide +kernel) (by decide +kernel)
  have hhealthy : healthyProviders (some (afterFailure "c")) providers =
      [replica "a" 1, replica "b" 2] := by decide +kernel
  have hexit := @AffinityRequest.exit (fun _ => 0) providers "chat" .priority none
    (replicaPool ["a", "b", "c"]) (some (afterFailure "c")) _ hrequest (by decide +kernel)
  rw [remembered_previous, hbaseline] at hexit
  have hkeeps := (affinity_keeps_order_iff hrequest).mpr
    fun (_ : selection.reason = "circuit_open") => by
      rw [hbaseline, hhealthy]
      decide +kernel
  rw [hbaseline, hhealthy] at hkeeps
  have hreason : selection.reason = "circuit_open" :=
    hexit.reason_of_previous_open (by decide +kernel) (by decide +kernel)
  exact ⟨hreason, hkeeps.2 hreason⟩

/-- With the latencies as the fallback, an open circuit puts the slower provider with the
better priority ahead of the faster one. -/
theorem open_circuit_forgets_latencies :
    let providers := [replica "b" 2, replica "a" 1, replica "c" 3]
    let snapshot := some (countedSuccess "b" 10 (countedSuccess "a" 50 {})).snapshot
    let resilience := some (afterFailure "c")
    let affinity := remembered "c" .latency
    let selection := (candidateProvidersWithAffinity (fun _ => 0) providers (some "chat") .priority
      snapshot (replicaPool ["a", "b", "c"]) resilience (some affinity)).1
    selection.reason = "circuit_open" ∧
      ¬ healthyProviders resilience (candidateProvidersForPolicy providers (some "chat")
        affinity.config.fallbackPolicy snapshot (replicaPool ["a", "b", "c"]) resilience) <+:
        selection.candidates := by
  intro providers snapshot resilience affinity selection
  have hbaseline : candidateProvidersForPolicy providers (some "chat")
      affinity.config.fallbackPolicy snapshot (replicaPool ["a", "b", "c"]) resilience =
      providers :=
    candidateProvidersForPolicy_of_sorted (by decide +kernel) (by decide +kernel)
  have hexit := @AffinityRequest.exit (fun _ => 0) providers "chat" .priority snapshot
    (replicaPool ["a", "b", "c"]) resilience _
    (remembered_request (by decide +kernel) "c" .latency) (by decide +kernel)
  rw [remembered_previous, hbaseline] at hexit
  rw [hbaseline]
  have hreason : selection.reason = "circuit_open" :=
    hexit.reason_of_previous_open (by decide +kernel) (by decide +kernel)
  refine ⟨hreason, fun hkeeps => ?_⟩
  have hsorted := hexit.keeps_baseline_iff.mp ⟨fun hmem => ?_, fun _ => hkeeps⟩ hreason
  · exact absurd hsorted (by decide +kernel)
  · exact absurd (hreason ▸ hmem : "circuit_open" ∈ _) (by decide)

end Selection
end RustyGate
