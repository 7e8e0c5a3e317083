/-
Routing by prefixes (`candidate_providers_with_affinity` in `src/routing/strategy.rs`, and
`src/routing/prefix_affinity.rs`).

Requests with the same prefix go to the provider that served the prefix last, or to the one
that a hash chooses, as long as its circuit, its errors and its load permit.  Every exit only
rearranges the candidates of a plain policy (`candidateProvidersWithAffinity_perm`), and the
plain policies do not look at the order of the providers (`candidateProvidersForPolicy_congr`),
since the name settles what the score and the priority leave open.

An instant is a number of nanoseconds.  `sha256` is the hash of a text, read as a number with
its first byte in front, which compares as the bytes do.
-/
import RustyGate.Collections.Lru
import RustyGate.Routing.Fallback
import RustyGate.Routing.Strategy

namespace RustyGate

/-! ## The index -/

structure PrefixAffinityEntry where
  providerName : String
  updatedAt : Nat
  deriving DecidableEq, Repr

structure PrefixAffinityIndex where
  ttl : Nat
  entries : Lru String PrefixAffinityEntry

namespace PrefixAffinityIndex

def new (config : PrefixAffinityConfig) : PrefixAffinityIndex where
  ttl := config.ttlSeconds.toNat * 10 ^ 9
  entries := .empty (max config.maxEntries 1)
    (Nat.lt_of_lt_of_le Nat.one_pos (Nat.le_max_right _ _))

/-- An entry that has expired is removed, any other one is used. -/
def lookup (index : PrefixAffinityIndex) (now : Nat) (fingerprint : String) :
    Option String × PrefixAffinityIndex :=
  match index.entries.get? fingerprint with
  | none => (none, index)
  | some entry =>
      if index.ttl < now - entry.updatedAt then
        (none, { index with entries := (index.entries.touch fingerprint).pop fingerprint })
      else
        (some entry.providerName, { index with entries := index.entries.touch fingerprint })

def record (index : PrefixAffinityIndex) (now : Nat) (fingerprint providerName : String) :
    PrefixAffinityIndex :=
  { index with entries := index.entries.use fingerprint ⟨providerName, now⟩ fun _ =>
      ⟨providerName, now⟩ }

end PrefixAffinityIndex

structure PrefixAffinityRouting where
  index : PrefixAffinityIndex
  config : PrefixAffinityConfig
  fingerprint : PrefixFingerprintResult
  now : Nat

/-! ## What is known of a provider -/

def u64Max : Nat := 2 ^ 64 - 1

def saturatingAdd (a b : Nat) : Nat := min (a + b) u64Max

def saturatingMul (a b : Nat) : Nat := min (a * b) u64Max

def isOpenCircuit (resilience : Option ResilienceRegistry) (entry : ProviderEntry) : Bool :=
  resilience.any fun registry => registry.circuitState entry.name == .opened

def providerHasRecentErrors (metricsSnapshot : Option MetricsSnapshot) (providerName : String) :
    Bool :=
  metricsSnapshot.any fun snapshot => 0 < recentErrorCount snapshot providerName

def providerInFlight (snapshot : MetricsSnapshot) (providerName : String) : Nat :=
  snapshot.inFlightRequestsByProvider.count providerName

/-- `ceil() as u64`, which stays in its range. -/
def providerQueuePressure (snapshot : MetricsSnapshot) (providerName : String) : Nat :=
  min ⌈(snapshot.queuePressureByProvider providerName).getD 0⌉.toNat u64Max

def loadWithinThreshold (metricsSnapshot : Option MetricsSnapshot) (providerName : String)
    (candidates : List ProviderEntry) (threshold : UInt64) : Bool :=
  match metricsSnapshot with
  | none => true
  | some snapshot =>
      let minInFlight := (candidates.map fun entry => providerInFlight snapshot entry.name).min?
      let minQueuePressure :=
        (candidates.map fun entry => providerQueuePressure snapshot entry.name).min?
      providerInFlight snapshot providerName ≤ saturatingAdd (minInFlight.getD 0) threshold.toNat &&
        providerQueuePressure snapshot providerName ≤
          saturatingAdd (minQueuePressure.getD 0) threshold.toNat

def loadScore (metricsSnapshot : Option MetricsSnapshot) (resilience : Option ResilienceRegistry)
    (entry : ProviderEntry) : Nat :=
  let circuitPenalty := if isOpenCircuit resilience entry then 1000000 else 0
  match metricsSnapshot with
  | none => circuitPenalty
  | some snapshot =>
      saturatingAdd
        (saturatingAdd
          (max (providerInFlight snapshot entry.name) (providerQueuePressure snapshot entry.name))
          (saturatingMul (recentErrorCount snapshot entry.name) 1000))
        circuitPenalty

/-! ## Rearrangements -/

def moveProviderToFront (candidates : List ProviderEntry) (providerName : String) :
    List ProviderEntry :=
  let (preferred, rest) := candidates.partition fun entry => entry.name == providerName
  preferred ++ rest

def openLastOrder (resilience : Option ResilienceRegistry) (left right : ProviderEntry) : Bool :=
  if isOpenCircuit resilience left ≠ isOpenCircuit resilience right then
    isOpenCircuit resilience right
  else if left.priority ≠ right.priority then left.priority < right.priority
  else left.name ≤ right.name

def orderOpenCircuitsLast (candidates : List ProviderEntry)
    (resilience : Option ResilienceRegistry) : List ProviderEntry :=
  candidates.mergeSort (openLastOrder resilience)

/-- The place of a name; of two places for one name the map keeps the later. -/
def baselinePosition (candidates : List ProviderEntry) (providerName : String) : Nat :=
  ((candidates.map (·.name)).zipIdx.reverse.lookup providerName).getD 0

def loadOrder (baseline : List ProviderEntry) (metricsSnapshot : Option MetricsSnapshot)
    (resilience : Option ResilienceRegistry) (left right : ProviderEntry) : Bool :=
  let score := loadScore metricsSnapshot resilience
  let position (entry : ProviderEntry) := baselinePosition baseline entry.name
  if score left ≠ score right then score left < score right
  else if position left ≠ position right then position left < position right
  else left.name ≤ right.name

def orderByLoadThenBaseline (candidates : List ProviderEntry)
    (metricsSnapshot : Option MetricsSnapshot) (resilience : Option ResilienceRegistry) :
    List ProviderEntry :=
  candidates.mergeSort (loadOrder candidates metricsSnapshot resilience)

/-- `Iterator::max_by`: of two elements the later one stays unless the earlier is greater. -/
def maxBy {α : Type} (greater : α → α → Bool) : List α → Option α
  | [] => none
  | first :: rest =>
      some (rest.foldl (fun best next => if greater best next then best else next) first)

section Selection

variable (sha256 : String → BitVec 256)

def rendezvousScore (fingerprint providerName : String) : Nat :=
  (sha256 (fingerprint ++ ":" ++ providerName)).toNat

/-- The greater score wins, and among equal ones the smaller name. -/
def rendezvousGreater (fingerprint : String) (left right : ProviderEntry) : Bool :=
  let score (entry : ProviderEntry) := rendezvousScore sha256 fingerprint entry.name
  if score left ≠ score right then score right < score left else left.name < right.name

def rendezvousProvider (fingerprint : String) (candidates : List ProviderEntry) :
    Option ProviderEntry :=
  maxBy (rendezvousGreater sha256 fingerprint) candidates

/-! ## The selection -/

/-- Why a plain policy has chosen `selected`. -/
def routingDecisionReason (routingPolicy : RoutingPolicy) (selected : Option ProviderEntry)
    (metricsSnapshot : Option MetricsSnapshot) : String :=
  match routingPolicy with
  | .priority => "priority"
  | .cost => "lowest_cost"
  | .prefixAffinity => "fallback"
  | .latency =>
      match selected with
      | none => "no_provider"
      | some selected =>
          let positive (latency : Option ℚ) : Bool := latency.any fun latency => 0 < latency
          if positive (metricsSnapshot.bind (·.p95LatencyMsByProvider selected.name)) then
            "recent_latency_p95"
          else if positive (metricsSnapshot.bind (·.avgLatencyMsByProvider selected.name)) then
            "average_latency"
          else "no_latency_data"

/-- The candidates and the reason once the index has been asked.  `baseline` are the
candidates of the fallback policy, and `healthy` those of them whose circuit is not open. -/
def affinityCandidates (metricsSnapshot : Option MetricsSnapshot)
    (resilience : Option ResilienceRegistry) (threshold : UInt64) (fingerprint : String)
    (baseline healthy : List ProviderEntry) (previousProvider : Option String) :
    List ProviderEntry × String :=
  match previousProvider.filter fun name => baseline.any fun entry => entry.name == name with
  | some previousProvider =>
      if healthy.all fun entry => entry.name != previousProvider then
        (orderOpenCircuitsLast baseline resilience, "circuit_open")
      else if providerHasRecentErrors metricsSnapshot previousProvider then (baseline, "fallback")
      else if loadWithinThreshold metricsSnapshot previousProvider healthy threshold then
        (moveProviderToFront baseline previousProvider, "prefix_hit")
      else (orderByLoadThenBaseline baseline metricsSnapshot resilience, "load_imbalanced")
  | none =>
      match rendezvousProvider sha256 fingerprint healthy with
      | some selected => (moveProviderToFront baseline selected.name, "prefix_miss")
      | none => (baseline, "fallback")

/-- `candidate_providers_with_affinity`: the selection, and the index, which a lookup may
have changed. -/
def candidateProvidersWithAffinity (providers : List ProviderEntry)
    (requestedModel : Option String) (routingPolicy : RoutingPolicy)
    (metricsSnapshot : Option MetricsSnapshot) (modelPools : ModelPoolIndex)
    (resilience : Option ResilienceRegistry) (prefixAffinity : Option PrefixAffinityRouting) :
    CandidateSelection × Option PrefixAffinityIndex :=
  let unchanged := prefixAffinity.map (·.index)
  match requestedModel with
  | none => (⟨[], routingPolicy, "no_provider"⟩, unchanged)
  | some requestedModel =>
      let effectivePolicy :=
        effectiveRoutingPolicy (some requestedModel) routingPolicy modelPools
      let candidatesFor (policy : RoutingPolicy) := candidateProvidersForPolicy providers
        (some requestedModel) policy metricsSnapshot modelPools resilience
      if effectivePolicy ≠ .prefixAffinity then
        let candidates := candidatesFor effectivePolicy
        (⟨candidates, effectivePolicy,
          routingDecisionReason effectivePolicy candidates.head? metricsSnapshot⟩, unchanged)
      else
        match prefixAffinity with
        | none => (⟨candidatesFor .priority, effectivePolicy, "fallback"⟩, unchanged)
        | some affinity =>
            let baseline := candidatesFor affinity.config.fallbackPolicy
            match modelPools.poolForPublicModel requestedModel,
                affinity.fingerprint.fingerprint with
            | some pool, some fingerprint =>
                if pool.members.card ≤ 1 || !affinity.fingerprint.isHighConfidence then
                  (⟨baseline, effectivePolicy, "fallback"⟩, unchanged)
                else if baseline.isEmpty then
                  (⟨baseline, effectivePolicy, "no_provider"⟩, unchanged)
                else
                  let healthy := baseline.filter fun entry => !isOpenCircuit resilience entry
                  if healthy.isEmpty then
                    (⟨orderOpenCircuitsLast baseline resilience, effectivePolicy,
                      "circuit_open"⟩, unchanged)
                  else
                    let (previousProvider, index) :=
                      affinity.index.lookup affinity.now fingerprint
                    let (candidates, reason) := affinityCandidates sha256 metricsSnapshot
                      resilience affinity.config.loadImbalanceThreshold fingerprint baseline
                      healthy previousProvider
                    (⟨candidates, effectivePolicy, reason⟩, some index)
            | _, _ => (⟨baseline, effectivePolicy, "fallback"⟩, unchanged)

/-! ## Every exit rearranges -/

variable {providers : List ProviderEntry} {requestedModel : Option String}
  {routingPolicy : RoutingPolicy} {metricsSnapshot : Option MetricsSnapshot}
  {modelPools : ModelPoolIndex} {resilience : Option ResilienceRegistry}

theorem moveProviderToFront_perm (candidates : List ProviderEntry) (providerName : String) :
    (moveProviderToFront candidates providerName).Perm candidates := by
  simp only [moveProviderToFront, List.partition_eq_filter_filter]
  exact List.filter_append_perm _ candidates

theorem affinityCandidates_perm (threshold : UInt64) (fingerprint : String)
    (baseline healthy : List ProviderEntry) (previousProvider : Option String) :
    (affinityCandidates sha256 metricsSnapshot resilience threshold fingerprint baseline healthy
      previousProvider).1.Perm baseline := by
  unfold affinityCandidates
  split
  · split
    · exact List.mergeSort_perm _ _
    split
    · exact List.Perm.refl baseline
    split
    · exact moveProviderToFront_perm _ _
    · exact List.mergeSort_perm _ _
  · split
    · exact moveProviderToFront_perm _ _
    · exact List.Perm.refl baseline

/-- The providers that can serve a request: the members of the pool that is asked for, or
the providers of the model if no pool is, and none if no model is asked for. -/
def eligibleProviders (providers : List ProviderEntry) (requestedModel : Option String)
    (modelPools : ModelPoolIndex) : List ProviderEntry :=
  match requestedModel with
  | none => []
  | some model =>
      match modelPools.poolForPublicModel model with
      | some pool => providers.filter fun entry => entry.name ∈ pool.members
      | none => providers.filter fun entry => entry.model = model

theorem eligibleProviders_sublist :
    (eligibleProviders providers requestedModel modelPools).Sublist providers := by
  unfold eligibleProviders
  split
  · exact List.nil_sublist providers
  · split
    · exact List.filter_sublist
    · exact List.filter_sublist

theorem candidateProvidersForPolicy_perm (policy : RoutingPolicy) :
    (candidateProvidersForPolicy providers requestedModel policy metricsSnapshot modelPools
      resilience).Perm (eligibleProviders providers requestedModel modelPools) := by
  cases requestedModel with
  | none => exact List.Perm.refl []
  | some model =>
      apply (List.mergeSort_perm _ _).trans
      unfold ProviderEntry.eligible eligibleProviders
      simp only
      cases modelPools.poolForPublicModel model with
      | some pool => exact List.Perm.refl _
      | none =>
          simp only [ProviderEntry.supportsModel]
          rfl

/-- Whichever exit is taken, the candidates are those of a plain policy in some order. -/
theorem candidateProvidersWithAffinity_perm (prefixAffinity : Option PrefixAffinityRouting) :
    (candidateProvidersWithAffinity sha256 providers requestedModel routingPolicy metricsSnapshot
      modelPools resilience prefixAffinity).1.candidates.Perm
      (eligibleProviders providers requestedModel modelPools) := by
  unfold candidateProvidersWithAffinity
  cases requestedModel with
  | none => exact List.Perm.refl []
  | some model =>
      have hplain (policy : RoutingPolicy) : (candidateProvidersForPolicy providers (some model)
          policy metricsSnapshot modelPools resilience).Perm
          (eligibleProviders providers (some model) modelPools) :=
        candidateProvidersForPolicy_perm policy
      simp only
      split
      · exact hplain _
      cases prefixAffinity with
      | none => exact hplain _
      | some affinity =>
          simp only
          split
          · split
            · exact hplain _
            split
            · exact hplain _
            split
            · exact (List.mergeSort_perm _ _).trans (hplain _)
            · exact (affinityCandidates_perm sha256 ..).trans (hplain _)
          · exact hplain _

/-- The candidates are exactly the eligible providers, and under distinct names none of them
stands there twice. -/
theorem candidates_eligible (prefixAffinity : Option PrefixAffinityRouting) :
    let candidates := (candidateProvidersWithAffinity sha256 providers requestedModel routingPolicy
      metricsSnapshot modelPools resilience prefixAffinity).1.candidates
    candidates.Perm (eligibleProviders providers requestedModel modelPools) ∧
      ((providers.map (·.name)).Nodup → (candidates.map (·.name)).Nodup) := by
  intro candidates
  have hperm : candidates.Perm (eligibleProviders providers requestedModel modelPools) :=
    candidateProvidersWithAffinity_perm sha256 prefixAffinity
  refine ⟨hperm, fun hnames => ?_⟩
  rw [(hperm.map (·.name)).nodup_iff]
  exact hnames.sublist ((eligibleProviders_sublist).map (·.name))

/-! ## The order of the providers -/

/-- The names break every tie, so that nothing is left to the order of the list. -/
theorem candidateProvidersForPolicy_congr {providers' : List ProviderEntry}
    (hperm : providers.Perm providers') (hnames : (providers.map (·.name)).Nodup)
    (policy : RoutingPolicy) :
    candidateProvidersForPolicy providers requestedModel policy metricsSnapshot modelPools
        resilience =
      candidateProvidersForPolicy providers' requestedModel policy metricsSnapshot modelPools
        resilience := by
  cases requestedModel with
  | none => rfl
  | some model =>
      apply (candidateOrder_byKey policy).mergeSort_eq_of_perm (hperm.filter _)
      intro left hleft right hright hkey
      have hname : left.name = right.name := congrArg (fun key => (ofLex (ofLex key).2).2) hkey
      exact List.inj_on_of_nodup_map hnames (List.mem_of_mem_filter hleft)
        (List.mem_of_mem_filter hright) hname

/-- The selection looks at the providers only through the candidates of the plain policies. -/
theorem selection_ignores_listing {providers' : List ProviderEntry}
    (hperm : providers.Perm providers') (hnames : (providers.map (·.name)).Nodup)
    (prefixAffinity : Option PrefixAffinityRouting) :
    candidateProvidersWithAffinity sha256 providers requestedModel routingPolicy metricsSnapshot
        modelPools resilience prefixAffinity =
      candidateProvidersWithAffinity sha256 providers' requestedModel routingPolicy
        metricsSnapshot modelPools resilience prefixAffinity := by
  have hplain (model : String) (policy : RoutingPolicy) :
      candidateProvidersForPolicy providers (some model) policy metricsSnapshot modelPools
          resilience =
        candidateProvidersForPolicy providers' (some model) policy metricsSnapshot modelPools
          resilience :=
    candidateProvidersForPolicy_congr hperm hnames policy
  unfold candidateProvidersWithAffinity
  simp only [hplain]

theorem selection_ignores_listing_pair :
    let alpha : ProviderEntry := { name := "alpha", model := "chat-a" }
    let beta : ProviderEntry := { name := "beta", model := "chat-b" }
    let modelPools := ModelPoolIndex.fromConfigs
      [{ name := "chat", routingPolicy := some .prefixAffinity, members := ["alpha", "beta"] }]
    let affinity : PrefixAffinityRouting :=
      { index := (PrefixAffinityIndex.new {}).record 0 "v1:0" "beta", config := {},
        fingerprint := ⟨some "v1:0", .high⟩, now := 1 }
    let select (providers : List ProviderEntry) := candidateProvidersWithAffinity (fun _ => 0)
      providers (some "chat") .priority none modelPools none (some affinity)
    ([alpha, beta].map (·.name)).Nodup ∧ select [alpha, beta] = select [beta, alpha] := by
  intro alpha beta modelPools affinity select
  have hnames : ([alpha, beta].map (·.name)).Nodup := by decide
  exact ⟨hnames, selection_ignores_listing _ (List.Perm.swap beta alpha []) hnames _⟩

end Selection

end RustyGate
