/-
Latency routing compares providers by one number.

The number is a latency and a load.  The latency is the p95, or the average if the p95 is not
positive, or infinite if neither is.  The load is what the calls in flight, the queue, the
recent errors and the circuit add.  With a positive p95 a better provider has a smaller
number.  A p95 of zero, from calls that took less than a millisecond, is read as no
measurement at all, and an infinite latency hides every difference in the load.
-/
import RustyGate.Routing.Strategy
import Mathlib.Tactic.Linarith
import Mathlib.Tactic.NormNum

namespace RustyGate

/-- Closed is better than half-open, and half-open better than open. -/
def CircuitState.rank : CircuitState → Nat
  | .closed => 0
  | .halfOpen => 1
  | .opened => 2

namespace ProviderEntry

section Figures

variable (metricsSnapshot : Option MetricsSnapshot) (resilience : Option ResilienceRegistry)
  (entry : ProviderEntry)

/-! ## The figures of a provider -/

def p95LatencyMs : Option ℚ :=
  metricsSnapshot.bind fun snapshot => snapshot.p95LatencyMsByProvider entry.name

def avgLatencyMs : Option ℚ :=
  metricsSnapshot.bind fun snapshot => snapshot.avgLatencyMsByProvider entry.name

def inFlight : Nat :=
  (metricsSnapshot.map fun snapshot => snapshot.inFlightRequestsByProvider.count entry.name).getD 0

def queuePressure : ℚ :=
  (metricsSnapshot.map fun snapshot =>
    (snapshot.queuePressureByProvider entry.name).getD 0).getD 0

def recentErrors : Nat :=
  (metricsSnapshot.map fun snapshot => recentErrorCount snapshot entry.name).getD 0

def circuit : CircuitState :=
  (resilience.map fun registry => registry.circuitState entry.name).getD .closed

/-- What is added to the latency. -/
def load : ℚ :=
  (entry.inFlight metricsSnapshot : ℚ) * inFlightLatencyPenaltyMs +
    entry.queuePressure metricsSnapshot * queuePressurePenaltyMs +
    (entry.recentErrors metricsSnapshot : ℚ) * recentErrorPenaltyMs +
    circuitPenalty (entry.circuit resilience)

theorem latencyScore_eq :
    entry.latencyScore metricsSnapshot resilience =
      entry.latencyMs metricsSnapshot + (entry.load metricsSnapshot resilience : ℚ) := by
  have hcircuit : (resilience.map fun registry =>
      circuitPenalty (registry.circuitState entry.name)).getD 0 =
      circuitPenalty (entry.circuit resilience) := by
    cases resilience <;> rfl
  have hpenalty : (metricsSnapshot.map fun snapshot => snapshot.penalty entry.name).getD 0 =
      (entry.inFlight metricsSnapshot : ℚ) * inFlightLatencyPenaltyMs +
        entry.queuePressure metricsSnapshot * queuePressurePenaltyMs +
        (entry.recentErrors metricsSnapshot : ℚ) * recentErrorPenaltyMs := by
    cases metricsSnapshot with
    | none => simp [inFlight, queuePressure, recentErrors]
    | some snapshot => rfl
  rw [latencyScore, hcircuit, hpenalty, add_assoc, ← WithTop.coe_add]
  rfl

end Figures

section Latency

variable {metricsSnapshot : Option MetricsSnapshot} {entry : ProviderEntry}

theorem filter_positive {x : ℚ} (hx : 0 < x) :
    (some x).filter (fun x : ℚ => 0 < x) = some x :=
  Option.filter_eq_some_iff.mpr ⟨rfl, decide_eq_true hx⟩

theorem filter_not_positive {latency : Option ℚ} (h : ∀ x, latency = some x → ¬ 0 < x) :
    latency.filter (fun x => 0 < x) = none := by
  rw [Option.filter_eq_none_iff]
  intro x hx
  simpa using h x hx

theorem latencyMs_of_p95 {x : ℚ} (hp95 : entry.p95LatencyMs metricsSnapshot = some x)
    (hx : 0 < x) : entry.latencyMs metricsSnapshot = x := by
  cases metricsSnapshot with
  | none => cases hp95
  | some snapshot =>
      rw [p95LatencyMs, Option.bind_some] at hp95
      simp only [latencyMs, Option.bind_some, hp95, filter_positive hx]
      rfl

variable (hp95 : ∀ x, entry.p95LatencyMs metricsSnapshot = some x → ¬ 0 < x)

include hp95

/-- Without a positive p95, the average counts if it is positive. -/
theorem latencyMs_of_avg {x : ℚ} (havg : entry.avgLatencyMs metricsSnapshot = some x)
    (hx : 0 < x) : entry.latencyMs metricsSnapshot = x := by
  cases metricsSnapshot with
  | none => cases havg
  | some snapshot =>
      rw [avgLatencyMs, Option.bind_some] at havg
      simp only [p95LatencyMs, Option.bind_some] at hp95
      simp only [latencyMs, Option.bind_some, havg, filter_positive hx, filter_not_positive hp95]
      rfl

theorem latencyMs_eq_top (havg : ∀ x, entry.avgLatencyMs metricsSnapshot = some x → ¬ 0 < x) :
    entry.latencyMs metricsSnapshot = ⊤ := by
  cases metricsSnapshot with
  | none => rfl
  | some snapshot =>
      simp only [avgLatencyMs, Option.bind_some] at havg
      simp only [p95LatencyMs, Option.bind_some] at hp95
      simp only [latencyMs, Option.bind_some, filter_not_positive havg, filter_not_positive hp95]
      rfl

end Latency

/-! ## Better providers -/

variable (metricsSnapshot : Option MetricsSnapshot) (resilience : Option ResilienceRegistry)

/-- `a` is nowhere worse than `b`, and both have measured latencies or neither has. -/
structure NoWorse (a b : ProviderEntry) : Prop where
  p95 : Option.Rel (· ≤ ·) (a.p95LatencyMs metricsSnapshot) (b.p95LatencyMs metricsSnapshot)
  avg : Option.Rel (· ≤ ·) (a.avgLatencyMs metricsSnapshot) (b.avgLatencyMs metricsSnapshot)
  inFlight : a.inFlight metricsSnapshot ≤ b.inFlight metricsSnapshot
  queuePressure : a.queuePressure metricsSnapshot ≤ b.queuePressure metricsSnapshot
  recentErrors : a.recentErrors metricsSnapshot ≤ b.recentErrors metricsSnapshot
  circuit : (a.circuit resilience).rank ≤ (b.circuit resilience).rank

/-- `a` is better in what the load is made of. -/
def LessLoaded (a b : ProviderEntry) : Prop :=
  a.inFlight metricsSnapshot < b.inFlight metricsSnapshot ∨
    a.queuePressure metricsSnapshot < b.queuePressure metricsSnapshot ∨
    a.recentErrors metricsSnapshot < b.recentErrors metricsSnapshot ∨
    (a.circuit resilience).rank < (b.circuit resilience).rank

/-- `a` is better somewhere. -/
def Better (a b : ProviderEntry) : Prop :=
  (∃ x y, a.p95LatencyMs metricsSnapshot = some x ∧ b.p95LatencyMs metricsSnapshot = some y ∧
    x < y) ∨ a.LessLoaded metricsSnapshot resilience b

/-- The latency of `a` is measured well enough to be compared with `b`: by a positive p95, or
by a positive average that with its load is less than the number of `b`. -/
def Measured (a b : ProviderEntry) : Prop :=
  (∃ x, a.p95LatencyMs metricsSnapshot = some x ∧ 0 < x) ∨
    ∃ x, a.avgLatencyMs metricsSnapshot = some x ∧ 0 < x ∧
      ((x + a.load metricsSnapshot resilience : ℚ) : WithTop ℚ) <
        b.latencyScore metricsSnapshot resilience

end ProviderEntry

theorem circuitPenalty_le_iff (s t : CircuitState) :
    circuitPenalty s ≤ circuitPenalty t ↔ s.rank ≤ t.rank := by
  cases s <;> cases t <;> decide +kernel

namespace ProviderEntry

variable {metricsSnapshot : Option MetricsSnapshot} {resilience : Option ResilienceRegistry}
  {a b : ProviderEntry} (h : NoWorse metricsSnapshot resilience a b)

include h

/-- No term of the load is more. -/
theorem NoWorse.terms_le :
    (a.inFlight metricsSnapshot : ℚ) ≤ b.inFlight metricsSnapshot ∧
      a.queuePressure metricsSnapshot ≤ b.queuePressure metricsSnapshot ∧
      (a.recentErrors metricsSnapshot : ℚ) ≤ b.recentErrors metricsSnapshot ∧
      circuitPenalty (a.circuit resilience) ≤ circuitPenalty (b.circuit resilience) :=
  ⟨Nat.cast_le.mpr h.inFlight, h.queuePressure, Nat.cast_le.mpr h.recentErrors,
    (circuitPenalty_le_iff _ _).mpr h.circuit⟩

theorem NoWorse.load_le :
    a.load metricsSnapshot resilience ≤ b.load metricsSnapshot resilience := by
  obtain ⟨hinFlight, hpressure, herrors, hcircuit⟩ := h.terms_le
  unfold load inFlightLatencyPenaltyMs queuePressurePenaltyMs recentErrorPenaltyMs
  linarith

theorem NoWorse.load_lt (hless : LessLoaded metricsSnapshot resilience a b) :
    a.load metricsSnapshot resilience < b.load metricsSnapshot resilience := by
  obtain ⟨hinFlight, hpressure, herrors, hcircuit⟩ := h.terms_le
  unfold load inFlightLatencyPenaltyMs queuePressurePenaltyMs recentErrorPenaltyMs
  rcases hless with hlt | hlt | hlt | hlt
  · have hcast : (a.inFlight metricsSnapshot : ℚ) < b.inFlight metricsSnapshot :=
      Nat.cast_lt.mpr hlt
    linarith
  · linarith
  · have hcast : (a.recentErrors metricsSnapshot : ℚ) < b.recentErrors metricsSnapshot :=
      Nat.cast_lt.mpr hlt
    linarith
  · have hpenalty : circuitPenalty (a.circuit resilience) < circuitPenalty (b.circuit resilience) :=
      lt_of_not_ge fun hge => Nat.not_le.mpr hlt ((circuitPenalty_le_iff _ _).mp hge)
    linarith

/-- The number of a provider that is better is smaller exactly if its latency is measured. -/
theorem latencyScore_lt_iff (hbetter : Better metricsSnapshot resilience a b) :
    a.latencyScore metricsSnapshot resilience < b.latencyScore metricsSnapshot resilience ↔
      Measured metricsSnapshot resilience a b := by
  by_cases hp95 : ∃ x, a.p95LatencyMs metricsSnapshot = some x ∧ 0 < x
  · refine iff_of_true ?_ (.inl hp95)
    obtain ⟨x, hx, hpos⟩ := hp95
    obtain ⟨y, hy, hle⟩ : ∃ y, b.p95LatencyMs metricsSnapshot = some y ∧ x ≤ y := by
      have hrel := h.p95
      rw [hx] at hrel
      generalize b.p95LatencyMs metricsSnapshot = p95 at hrel ⊢
      cases hrel with
      | some hle => exact ⟨_, rfl, hle⟩
    rw [latencyScore_eq, latencyScore_eq, latencyMs_of_p95 hx hpos,
      latencyMs_of_p95 hy (lt_of_lt_of_le hpos hle), ← WithTop.coe_add, ← WithTop.coe_add,
      WithTop.coe_lt_coe]
    rcases hbetter with ⟨x', y', hx', hy', hlt⟩ | hless
    · obtain rfl := Option.some.inj (hx.symm.trans hx')
      obtain rfl := Option.some.inj (hy.symm.trans hy')
      exact add_lt_add_of_lt_of_le hlt h.load_le
    · exact add_lt_add_of_le_of_lt hle (h.load_lt hless)
  · have hnot : ∀ x, a.p95LatencyMs metricsSnapshot = some x → ¬ 0 < x :=
      fun x hx hpos => hp95 ⟨x, hx, hpos⟩
    rw [Measured, or_iff_right hp95, latencyScore_eq metricsSnapshot resilience a]
    by_cases havg : ∃ x, a.avgLatencyMs metricsSnapshot = some x ∧ 0 < x
    · obtain ⟨x, hx, hpos⟩ := havg
      rw [latencyMs_of_avg hnot hx hpos, ← WithTop.coe_add]
      simp [hx, hpos]
    · have htop : a.latencyMs metricsSnapshot = ⊤ :=
        latencyMs_eq_top hnot fun x hx hpos => havg ⟨x, hx, hpos⟩
      rw [htop, WithTop.top_add]
      refine iff_of_false not_top_lt ?_
      rintro ⟨x, hx, hpos, -⟩
      exact havg ⟨x, hx, hpos⟩

end ProviderEntry

/-! ## Providers that were called once -/

namespace MetricsRegistry

variable {m : MetricsRegistry} {provider : String} {x : UInt64}

theorem p95_of_one_call (h : m.providerLatencySamplesMs provider = [x]) :
    m.snapshot.p95LatencyMsByProvider provider = some (x.toNat : ℚ) := by
  have hceil : ⌈((1 : Nat) : ℚ) * (95 / 100)⌉.toNat = 1 := by norm_num
  show percentilesOf m.providerLatencySamplesMs (95 / 100) provider = _
  rw [percentilesOf, h, percentileLatency, sortedSamples, List.mergeSort_singleton,
    List.length_singleton, hceil]
  rfl

theorem avg_of_one_call (hone : m.requestsByProvider.lookup provider = some 1)
    (htotal : m.providerTotalLatencyMs.count provider = x.toNat) :
    m.snapshot.avgLatencyMsByProvider provider = some (x.toNat : ℚ) := by
  show m.avgLatencyMsByProvider provider = _
  rw [avgLatencyMsByProvider, hone, Option.map_some, htotal]
  simp

/-- The counters after one call at each of two providers. -/
def afterCalls (x y : UInt64) : MetricsRegistry :=
  let call (provider : String) (latencyMs : UInt64) : MetricsUpdate :=
    .recordChatSuccess provider {} (ProviderPricing.estimateCost {} 0 0) latencyMs
      [⟨provider, 1, latencyMs, true, false, none⟩]
  [call "a" x, call "b" y].foldl record {}

end MetricsRegistry

/-- One of the two providers that were called. -/
def calledEntry (name : String) (priority : UInt32) : ProviderEntry :=
  { name := name, model := "m", priority := priority }

section Called

variable (x y : UInt64) (i j : UInt32)

theorem p95_calledEntry :
    let snapshot := some (MetricsRegistry.afterCalls x y).snapshot
    (calledEntry "a" i).p95LatencyMs snapshot = some (x.toNat : ℚ) ∧
      (calledEntry "b" j).p95LatencyMs snapshot = some (y.toNat : ℚ) :=
  ⟨MetricsRegistry.p95_of_one_call rfl, MetricsRegistry.p95_of_one_call rfl⟩

theorem avg_calledEntry :
    let snapshot := some (MetricsRegistry.afterCalls x y).snapshot
    (calledEntry "a" i).avgLatencyMs snapshot = some (x.toNat : ℚ) ∧
      (calledEntry "b" j).avgLatencyMs snapshot = some (y.toNat : ℚ) := by
  have htotals : (MetricsRegistry.afterCalls x y).providerTotalLatencyMs =
      (Tally.raise ∅ "a" x.toNat).raise "b" y.toNat := rfl
  refine ⟨MetricsRegistry.avg_of_one_call rfl ?_, MetricsRegistry.avg_of_one_call rfl ?_⟩
  · simp [htotals, calledEntry]
  · simp [htotals, calledEntry]

variable {x y}

theorem noWorse_calledEntry (h : x < y) :
    let snapshot := some (MetricsRegistry.afterCalls x y).snapshot
    ProviderEntry.NoWorse snapshot none (calledEntry "a" i) (calledEntry "b" j) ∧
      ProviderEntry.Better snapshot none (calledEntry "a" i) (calledEntry "b" j) := by
  intro snapshot
  obtain ⟨hp95a, hp95b⟩ := p95_calledEntry x y i j
  obtain ⟨havga, havgb⟩ := avg_calledEntry x y i j
  have hlt : (x.toNat : ℚ) < y.toNat := Nat.cast_lt.mpr h
  refine ⟨⟨?_, ?_, Nat.le_refl _, le_refl _, Nat.le_refl _, Nat.le_refl _⟩,
    .inl ⟨_, _, hp95a, hp95b, hlt⟩⟩
  · rw [hp95a, hp95b]
    exact .some hlt.le
  · rw [havga, havgb]
    exact .some hlt.le

end Called

/-! ## The order of the candidates -/

section Candidates

variable {metricsSnapshot : Option MetricsSnapshot} {resilience : Option ResilienceRegistry}
  {modelPools : ModelPoolIndex} {model : String} {routingPolicy : RoutingPolicy}
  {a b : ProviderEntry}

/-- Under latency routing, a better provider comes first whatever the priorities exactly if
its latency is measured. -/
theorem better_comes_first_iff
    (hpolicy : effectiveRoutingPolicy (some model) routingPolicy modelPools = .latency)
    (ha : a.eligible modelPools model = true) (hb : b.eligible modelPools model = true)
    (hnoWorse : ProviderEntry.NoWorse metricsSnapshot resilience a b)
    (hbetter : ProviderEntry.Better metricsSnapshot resilience a b) :
    (∀ (providers : List ProviderEntry) (i j : UInt32),
      { a with priority := i } ∈ providers → { b with priority := j } ∈ providers →
        [{ a with priority := i }, { b with priority := j }].Sublist
          (candidateProviders providers (some model) routingPolicy metricsSnapshot modelPools
            resilience)) ↔
      ProviderEntry.Measured metricsSnapshot resilience a b := by
  rw [← ProviderEntry.latencyScore_lt_iff hnoWorse hbetter]
  have hkey := @candidateOrder_byKey metricsSnapshot resilience .latency
  simp only [candidateProviders, candidateProvidersForPolicy, hpolicy]
  constructor
  · intro hall
    -- With the priorities against it, only the number can bring `a` to the front.
    have hsub := hall [{ a with priority := 1 }, { b with priority := 0 }] 1 0 (by simp) (by simp)
    rcases Prod.Lex.toLex_le_toLex.mp (hkey.le_of_sublist hsub) with hlt | ⟨-, hle⟩
    · exact hlt
    · rcases Prod.Lex.toLex_le_toLex.mp hle with hlt | ⟨heq, -⟩
      · exact absurd hlt (Nat.not_lt.mpr (Nat.zero_le 1))
      · exact absurd heq Nat.one_ne_zero
  · intro hlt providers i j hi hj
    apply hkey.sublist_of_lt (List.mem_filter.mpr ⟨hi, ha⟩) (List.mem_filter.mpr ⟨hj, hb⟩)
    exact Prod.Lex.toLex_lt_toLex.mpr (.inl hlt)

/-- Three milliseconds are better than five. -/
theorem better_comes_first_three_five :
    let snapshot := some (MetricsRegistry.afterCalls 3 5).snapshot
    [calledEntry "a" 7, calledEntry "b" 1].Sublist
      (candidateProviders [calledEntry "b" 1, calledEntry "a" 7] (some "m") .latency snapshot {}
        none) := by
  intro snapshot
  obtain ⟨hnoWorse, hbetter⟩ := noWorse_calledEntry (x := 3) (y := 5) 7 1 (by decide)
  have hmeasured : ProviderEntry.Measured snapshot none (calledEntry "a" 7) (calledEntry "b" 1) :=
    .inl ⟨_, (p95_calledEntry 3 5 7 1).1, Nat.cast_pos.mpr (by decide)⟩
  exact (better_comes_first_iff rfl rfl rfl hnoWorse hbetter).mpr hmeasured
    [calledEntry "b" 1, calledEntry "a" 7] 7 1 (.tail _ (.head _)) (.head _)

/-- A provider that answers in less than a millisecond is tried after one that needs five,
also if its priority is better. -/
theorem zero_latency_comes_last :
    let a := calledEntry "a" 1
    let b := calledEntry "b" 7
    let snapshot := some (MetricsRegistry.afterCalls 0 5).snapshot
    ProviderEntry.NoWorse snapshot none a b ∧ ProviderEntry.Better snapshot none a b ∧
      candidateProviders [a, b] (some "m") .latency snapshot {} none = [b, a] := by
  intro a b snapshot
  obtain ⟨hnoWorse, hbetter⟩ := noWorse_calledEntry (x := 0) (y := 5) 1 7 (by decide)
  have ha : a.latencyMs snapshot = ⊤ := by
    apply ProviderEntry.latencyMs_eq_top
    · intro x hx
      obtain rfl := Option.some.inj ((p95_calledEntry 0 5 1 7).1.symm.trans hx)
      exact lt_irrefl 0
    · intro x hx
      obtain rfl := Option.some.inj ((avg_calledEntry 0 5 1 7).1.symm.trans hx)
      exact lt_irrefl 0
  have hb : b.latencyMs snapshot = ((5 : UInt64).toNat : ℚ) :=
    ProviderEntry.latencyMs_of_p95 (p95_calledEntry 0 5 1 7).2 (Nat.cast_pos.mpr (by decide))
  have hlt : b.latencyScore snapshot none < a.latencyScore snapshot none := by
    rw [ProviderEntry.latencyScore_eq, ProviderEntry.latencyScore_eq, ha, hb, WithTop.top_add,
      ← WithTop.coe_add]
    exact WithTop.coe_lt_top _
  have hperm : (candidateProviders [a, b] (some "m") .latency snapshot {} none).Perm [a, b] :=
    candidateProviders_perm
  have hsub : [b, a].Sublist (candidateProviders [a, b] (some "m") .latency snapshot {} none) :=
    (candidateOrder_byKey .latency).sublist_of_lt (by decide) (by decide)
      (Prod.Lex.toLex_lt_toLex.mpr (.inl hlt))
  exact ⟨hnoWorse, hbetter, (hsub.eq_of_length hperm.length_eq.symm).symm⟩

end Candidates
end RustyGate
