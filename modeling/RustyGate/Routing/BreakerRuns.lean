/-
The breaker under overlapping calls.

A call is let through by `allow_provider_call`, is in flight for a while, and then
reports with `record_success` or `record_failure`.  Any number of calls overlap, so
a call may report to a circuit that has changed since it was let through.

The documented machine is closed, open, half-open, closed, with half-open going back
to open when a probe fails.  A success reported by a call that was let through before
the circuit opened takes a shortcut in that machine.  `lawful_iff_timely` says that
these reports are the only steps that leave it.
-/
import RustyGate.Routing.Resilience
import Mathlib.Data.List.Basic

namespace RustyGate

/-- A call that was let through and has not reported yet.  `openings` is the number
of times the provider's circuit had opened by then. -/
structure Flight where
  provider : String
  admittedAt : Nat
  openings : Nat
  deriving DecidableEq, Repr

/-- The registry with the calls in flight.  `openings` counts, for each provider, how
often its circuit has opened, and `time` is the instant of the last step. -/
structure BreakerRun where
  registry : ResilienceRegistry
  flights : List Flight := []
  openings : String → Nat := fun _ => 0
  time : Nat := 0

/-- A step at instant `at_`.  `now` is the reading of the clock the operation uses.
It is taken before the lock, so it may be older than the step itself. -/
inductive BreakerAct where
  | ask (at_ now : Nat) (provider : String)
  | succeed (at_ flight : Nat)
  | fail (at_ now flight : Nat)
  deriving DecidableEq, Repr

namespace BreakerRun

def start (r : ResilienceRegistry) : BreakerRun := { registry := r }

/-- The run after `record_failure`, with the opening counted when there is one. -/
def reportFailure (x : BreakerRun) (at_ now : Nat) (p : String) (flights : List Flight) :
    BreakerRun :=
  { registry := x.registry.recordFailure now p
    flights := flights
    openings :=
      if x.registry.circuitState p ≠ .opened ∧
          (x.registry.recordFailure now p).circuitState p = .opened then
        Function.update x.openings p (x.openings p + 1)
      else x.openings
    time := at_ }

/-- One step, when it is possible: instants do not decrease, a reading is not from
the future, and only a call in flight reports. -/
def next (x : BreakerRun) : BreakerAct → Option BreakerRun
  | .ask at_ now p =>
      if x.time ≤ at_ ∧ now ≤ at_ then
        let (allowed, r) := x.registry.allowProviderCall now p
        some { x with
          registry := r
          flights := if allowed then x.flights ++ [⟨p, at_, x.openings p⟩] else x.flights
          time := at_ }
      else none
  | .succeed at_ i =>
      if x.time ≤ at_ then
        x.flights[i]?.map fun f =>
          { x with
            registry := x.registry.recordSuccess f.provider
            flights := x.flights.eraseIdx i
            time := at_ }
      else none
  | .fail at_ now i =>
      if x.time ≤ at_ ∧ now ≤ at_ then
        x.flights[i]?.map fun f =>
          x.reportFailure at_ now f.provider (x.flights.eraseIdx i)
      else none

/-- `P` holds of every step of the run that performs `acts` from `x`, up to the first
act that is not possible. -/
def Always (P : BreakerRun → BreakerAct → BreakerRun → Prop) :
    BreakerRun → List BreakerAct → Prop
  | _, [] => True
  | x, a :: rest =>
      match x.next a with
      | none => True
      | some y => P x a y ∧ Always P y rest

/-- The changes of state the documentation allows. -/
def Documented : CircuitState → CircuitState → Bool
  | .closed, .opened | .opened, .halfOpen | .halfOpen, .closed | .halfOpen, .opened => true
  | s, t => s = t

/-- Step `a` from `x` closes the circuit of `p` by the success of a call that was
let through after the circuit had opened and cooled down. -/
def ClosedByProbe (x : BreakerRun) (a : BreakerAct) (p : String) : Prop :=
  ∃ at_ i f t₀, a = .succeed at_ i ∧ x.flights[i]? = some f ∧ f.provider = p ∧
    f.openings = x.openings p ∧ (x.registry.circuit p).openedAt = some t₀ ∧
    t₀ + (x.registry.breakerFor p).openDuration ≤ f.admittedAt

/-- The step makes only documented changes and closes a circuit that is not closed
only by the success of a probe. -/
def Lawful (x : BreakerRun) (a : BreakerAct) (y : BreakerRun) : Prop :=
  ∀ p, Documented (x.registry.circuitState p) (y.registry.circuitState p) = true ∧
    (x.registry.circuitState p ≠ .closed → y.registry.circuitState p = .closed →
      x.ClosedByProbe a p)

/-- A success that is reported while the circuit is not closed comes from a call that
was let through since the circuit last opened. -/
def Timely (x : BreakerRun) : BreakerAct → Prop
  | .succeed _ i => ∀ f, x.flights[i]? = some f →
      x.registry.circuitState f.provider ≠ .closed → f.openings = x.openings f.provider
  | _ => True

/-! ## What every run keeps -/

/-- What a circuit knows about its calls in flight. -/
structure CircuitInv (x : BreakerRun) (p : String) : Prop where
  openings_le : ∀ f ∈ x.flights, f.provider = p → f.openings ≤ x.openings p
  /-- No call in flight was let through since the circuit opened. -/
  opened : x.registry.circuitState p = .opened →
    (∃ t₀, (x.registry.circuit p).openedAt = some t₀ ∧ t₀ ≤ x.time) ∧
      ∀ f ∈ x.flights, f.provider = p → f.openings < x.openings p
  /-- The cool-down has run, and every call let through since is later than it. -/
  halfOpen : x.registry.circuitState p = .halfOpen →
    ∃ t₀, (x.registry.circuit p).openedAt = some t₀ ∧
      t₀ + (x.registry.breakerFor p).openDuration ≤ x.time ∧
      ∀ f ∈ x.flights, f.provider = p → f.openings = x.openings p →
        t₀ + (x.registry.breakerFor p).openDuration ≤ f.admittedAt

def Inv (x : BreakerRun) : Prop := ∀ p, x.CircuitInv p

theorem inv_start {r : ResilienceRegistry} (hr : ∀ p, r.circuitState p = .closed) :
    (start r).Inv := by
  intro p
  refine ⟨?_, ?_, ?_⟩
  · intro f hf
    cases hf
  · intro h
    rw [show (start r).registry.circuitState p = r.circuitState p from rfl, hr p] at h
    cases h
  · intro h
    rw [show (start r).registry.circuitState p = r.circuitState p from rfl, hr p] at h
    cases h

variable {x y : BreakerRun} {p : String}

/-- A step that leaves the circuit and the openings of `p` alone, adds no call for it
and does not go back in time keeps its invariant. -/
theorem CircuitInv.frame (h : x.CircuitInv p) (hc : y.registry.circuit p = x.registry.circuit p)
    (hb : y.registry.breakerFor p = x.registry.breakerFor p) (ho : y.openings p = x.openings p)
    (ht : x.time ≤ y.time) (hf : ∀ f ∈ y.flights, f.provider = p → f ∈ x.flights) :
    y.CircuitInv p := by
  have hstate : y.registry.circuitState p = x.registry.circuitState p := by
    rw [ResilienceRegistry.circuitState, ResilienceRegistry.circuitState, hc]
  refine ⟨?_, ?_, ?_⟩
  · intro f hmem hp
    rw [ho]
    exact h.openings_le f (hf f hmem hp) hp
  · intro hs
    obtain ⟨⟨t₀, hopened, hle⟩, hstale⟩ := h.opened (hstate ▸ hs)
    refine ⟨⟨t₀, by rw [hc]; exact hopened, Nat.le_trans hle ht⟩, fun f hmem hp => ?_⟩
    rw [ho]
    exact hstale f (hf f hmem hp) hp
  · intro hs
    obtain ⟨t₀, hopened, hle, hprobe⟩ := h.halfOpen (hstate ▸ hs)
    refine ⟨t₀, by rw [hc]; exact hopened, by rw [hb]; exact Nat.le_trans hle ht,
      fun f hmem hp hf' => ?_⟩
    rw [hb]
    rw [ho] at hf'
    exact hprobe f (hf f hmem hp) hp hf'

/-- Letting a call through. -/
theorem CircuitInv.letThrough {x : BreakerRun} {at_ now : Nat} {c : ProviderCircuitState}
    (h : x.CircuitInv p) (ht : x.time ≤ at_) (hn : now ≤ at_)
    (hallow : (x.registry.circuit p).allowProviderCall (x.registry.breakerFor p) now = (true, c)) :
    CircuitInv { x with registry := x.registry.setCircuit p c, time := at_,
                        flights := x.flights ++ [⟨p, at_, x.openings p⟩] } p := by
  have hmem : ∀ f ∈ x.flights ++ [⟨p, at_, x.openings p⟩],
      f ∈ x.flights ∨ f = ⟨p, at_, x.openings p⟩ := fun f hf => by
    simpa using hf
  refine ⟨?_, ?_, ?_⟩
  · intro f hf hp
    rcases hmem f hf with hf | rfl
    · exact h.openings_le f hf hp
    · exact Nat.le_refl _
  · intro hs
    simp only [ResilienceRegistry.circuitState,
      ResilienceRegistry.circuit_setCircuit_self] at hs
    rcases ProviderCircuitState.allow_true hallow with ⟨hc, rfl⟩ | ⟨-, -, rfl⟩ | ⟨hc, -, rfl⟩
    · rw [hs] at hc
      cases hc
    · cases hs
    · rw [show _ = _ from hs] at hc
      cases hc
  · intro hs
    simp only [ResilienceRegistry.circuitState,
      ResilienceRegistry.circuit_setCircuit_self] at hs ⊢
    simp only [ResilienceRegistry.breakerFor_setCircuit]
    rcases ProviderCircuitState.allow_true hallow with
      ⟨hc, rfl⟩ | ⟨hc, hready, rfl⟩ | ⟨hc, -, rfl⟩
    · rw [hs] at hc
      cases hc
    · -- The first probe: it is ready, so the cool-down ends before `at_`.
      obtain ⟨⟨t₀, hopened, hle⟩, hstale⟩ := h.opened hc
      have hcool : t₀ + (x.registry.breakerFor p).openDuration ≤ at_ := by
        simp only [ProviderCircuitState.readyForProbe, hopened, decide_eq_true_eq] at hready
        omega
      refine ⟨t₀, hopened, hcool, fun f hf hp hf' => ?_⟩
      rcases hmem f hf with hf | rfl
      · have := hstale f hf hp
        omega
      · exact hcool
    · obtain ⟨t₀, hopened, hle, hprobe⟩ := h.halfOpen hc
      refine ⟨t₀, hopened, Nat.le_trans hle ht, fun f hf hp hf' => ?_⟩
      rcases hmem f hf with hf | rfl
      · exact hprobe f hf hp hf'
      · exact Nat.le_trans hle ht

/-- A reported failure. -/
theorem CircuitInv.reportFailure {x : BreakerRun} {at_ now : Nat} {flights : List Flight}
    (h : x.CircuitInv p) (ht : x.time ≤ at_) (hn : now ≤ at_) (hf : ∀ f ∈ flights, f ∈ x.flights) :
    CircuitInv (x.reportFailure at_ now p flights) p := by
  have hcircuit : (x.reportFailure at_ now p flights).registry.circuit p =
      (x.registry.circuit p).recordFailure (x.registry.breakerFor p) now := by
    simp [BreakerRun.reportFailure]
  have hstate : (x.reportFailure at_ now p flights).registry.circuitState p =
      ((x.registry.circuit p).recordFailure (x.registry.breakerFor p) now).state := by
    rw [ResilienceRegistry.circuitState, hcircuit]
  rcases ProviderCircuitState.recordFailure_cases (x.registry.breakerFor p) now
    (x.registry.circuit p) with ⟨hc, hs, -⟩ | ⟨hc, hs, ho, -⟩ | ⟨hc, hsame⟩
  · have hop : (x.reportFailure at_ now p flights).openings p = x.openings p := by
      simp [BreakerRun.reportFailure, ResilienceRegistry.circuitState, hs]
    refine ⟨fun f hmem hp => ?_, fun h' => ?_, fun h' => ?_⟩
    · rw [hop]
      exact h.openings_le f (hf f hmem) hp
    · rw [hstate, hs] at h'
      cases h'
    · rw [hstate, hs] at h'
      cases h'
  · -- The circuit opens, and every call in flight is now from before the opening.
    have hop : (x.reportFailure at_ now p flights).openings p = x.openings p + 1 := by
      simp [BreakerRun.reportFailure, ResilienceRegistry.circuitState, hs, hc]
    refine ⟨fun f hmem hp => ?_, fun _ => ?_, fun h' => ?_⟩
    · rw [hop]
      exact Nat.le_succ_of_le (h.openings_le f (hf f hmem) hp)
    · refine ⟨⟨now, by rw [hcircuit]; exact ho, hn⟩, fun f hmem hp => ?_⟩
      rw [hop]
      exact Nat.lt_succ_of_le (h.openings_le f (hf f hmem) hp)
    · rw [hstate, hs] at h'
      cases h'
  · refine h.frame (by rw [hcircuit, hsame]) rfl ?_ ht fun f hmem _ => hf f hmem
    simp [BreakerRun.reportFailure, ResilienceRegistry.circuitState, hc]

theorem inv_next {a : BreakerAct} (h : x.Inv) (hn : x.next a = some y) :
    y.Inv := by
  intro q
  cases a with
  | ask at_ now p =>
      simp only [next] at hn
      split at hn
      · rename_i hguard
        obtain ⟨ht, hle⟩ := hguard
        cases hallow : (x.registry.circuit p).allowProviderCall
            (x.registry.breakerFor p) now with
        | mk allowed c =>
            simp only [ResilienceRegistry.allowProviderCall, hallow, Option.some.injEq] at hn
            subst hn
            by_cases hq : q = p
            · subst hq
              cases allowed with
              | true => exact (h q).letThrough ht hle hallow
              | false =>
                  obtain ⟨rfl, -⟩ := ProviderCircuitState.allow_false hallow
                  exact (h q).frame (by simp) rfl rfl ht fun f hf _ => hf
            · refine (h q).frame (by simp [hq]) rfl rfl ht fun f hf hp => ?_
              cases allowed with
              | true =>
                  rcases List.mem_append.mp hf with hf | hf
                  · exact hf
                  · rw [List.mem_singleton.mp hf] at hp
                    exact absurd hp.symm hq
              | false => exact hf
      · cases hn
  | succeed at_ i =>
      simp only [next] at hn
      split at hn
      · rename_i ht
        obtain ⟨f, hf, rfl⟩ := Option.map_eq_some_iff.mp hn
        by_cases hq : q = f.provider
        · subst hq
          have hclosed : (x.registry.recordSuccess f.provider).circuitState f.provider =
              .closed := by
            simp [ResilienceRegistry.circuitState, ProviderCircuitState.recordSuccess]
          refine ⟨fun g hg => (h f.provider).openings_le g (List.mem_of_mem_eraseIdx hg),
            fun hs => ?_, fun hs => ?_⟩
          · rw [show _ = _ from hclosed] at hs
            cases hs
          · rw [show _ = _ from hclosed] at hs
            cases hs
        · exact (h q).frame (by simp [hq]) rfl rfl ht
            fun g hg _ => List.mem_of_mem_eraseIdx hg
      · cases hn
  | fail at_ now i =>
      simp only [next] at hn
      split at hn
      · rename_i hguard
        obtain ⟨ht, hle⟩ := hguard
        obtain ⟨f, hf, rfl⟩ := Option.map_eq_some_iff.mp hn
        by_cases hq : q = f.provider
        · subst hq
          exact (h f.provider).reportFailure ht hle fun g => List.mem_of_mem_eraseIdx
        · refine (h q).frame (by simp [reportFailure, hq]) rfl ?_ ht
            fun g hg _ => List.mem_of_mem_eraseIdx hg
          simp only [reportFailure]
          split
          · exact Function.update_of_ne hq _ _
          · rfl
      · cases hn

/-! ## Which steps leave the documented machine -/

theorem documented_refl (s : CircuitState) : Documented s s = true := by
  cases s <;> rfl

/-- A step that only asks never closes a circuit. -/
theorem documented_allow (b : CircuitBreakerPolicy) (now : Nat) (c : ProviderCircuitState) :
    Documented c.state (c.allowProviderCall b now).2.state = true ∧
      ((c.allowProviderCall b now).2.state = .closed → c.state = .closed) := by
  cases h : c.allowProviderCall b now with
  | mk allowed c' =>
      cases allowed with
      | true =>
          rcases ProviderCircuitState.allow_true h with
            ⟨hc, rfl⟩ | ⟨hc, -, rfl⟩ | ⟨hc, -, rfl⟩
          · exact ⟨documented_refl _, fun _ => hc⟩
          · exact ⟨by rw [hc]; rfl, fun h' => by cases h'⟩
          · exact ⟨by rw [hc]; rfl, fun h' => h'⟩
      | false =>
          obtain ⟨rfl, -⟩ := ProviderCircuitState.allow_false h
          exact ⟨documented_refl _, fun h' => h'⟩

/-- Neither does a step that reports a failure. -/
theorem documented_recordFailure (b : CircuitBreakerPolicy) (now : Nat) (c : ProviderCircuitState) :
    Documented c.state (c.recordFailure b now).state = true ∧
      ((c.recordFailure b now).state = .closed → c.state = .closed) := by
  rcases ProviderCircuitState.recordFailure_cases b now c with
    ⟨hc, hs, -⟩ | ⟨hc, hs, -⟩ | ⟨hc, hsame⟩
  · rw [hs, hc]
    exact ⟨rfl, fun _ => rfl⟩
  · refine ⟨?_, fun h' => ?_⟩
    · rw [hs]
      cases h : c.state <;> rfl
    · rw [hs] at h'
      cases h'
  · rw [hsame]
    exact ⟨documented_refl _, fun h' => h'⟩

/-- A step of a registry that changes at most the circuit of `p`, and that one
without closing it, is lawful. -/
theorem lawful_of_circuit {a : BreakerAct}
    (hne : ∀ q, q ≠ p → y.registry.circuit q = x.registry.circuit q)
    (hp : Documented (x.registry.circuitState p) (y.registry.circuitState p) = true ∧
      (y.registry.circuitState p = .closed → x.registry.circuitState p = .closed)) :
    Lawful x a y := by
  intro q
  by_cases hq : q = p
  · subst hq
    exact ⟨hp.1, fun hopen hclosed => absurd (hp.2 hclosed) hopen⟩
  · have hsame : y.registry.circuitState q = x.registry.circuitState q := by
      rw [ResilienceRegistry.circuitState, ResilienceRegistry.circuitState, hne q hq]
    rw [hsame]
    exact ⟨documented_refl _, fun hopen hclosed => absurd hclosed hopen⟩

/-- A reported success is lawful when it is timely and only then. -/
theorem lawful_succeed_iff {x : BreakerRun} {at_ i : Nat} {f : Flight} (h : x.Inv)
    (hf : x.flights[i]? = some f) (y : BreakerRun)
    (hy : y.registry = x.registry.recordSuccess f.provider) :
    Lawful x (.succeed at_ i) y ↔ x.Timely (.succeed at_ i) := by
  have hclosed : y.registry.circuitState f.provider = .closed := by
    rw [hy, ResilienceRegistry.circuitState, ResilienceRegistry.circuit_recordSuccess_self]
    rfl
  have hmem : f ∈ x.flights := List.mem_of_getElem? hf
  constructor
  · intro hlaw g hg hopen
    obtain rfl : f = g := Option.some.inj (hf.symm.trans hg)
    obtain ⟨at', j, g, t₀, hact, hj, -, hop, -⟩ := (hlaw f.provider).2 hopen hclosed
    injection hact with _ hij
    subst hij
    obtain rfl : f = g := Option.some.inj (hf.symm.trans hj)
    exact hop
  · intro htime q
    by_cases hq : q = f.provider
    · subst hq
      rw [hclosed]
      cases hs : x.registry.circuitState f.provider with
      | closed => exact ⟨rfl, fun hne => absurd rfl hne⟩
      | opened =>
          -- Every call in flight is older than the opening, so none is timely.
          have hold := ((h f.provider).opened hs).2 f hmem rfl
          have hnew := htime f hf (by rw [hs]; decide)
          omega
      | halfOpen =>
          have hnew := htime f hf (by rw [hs]; decide)
          obtain ⟨t₀, hopened, -, hprobe⟩ := (h f.provider).halfOpen hs
          exact ⟨rfl, fun _ _ => ⟨at_, i, f, t₀, rfl, hf, rfl, hnew, hopened,
            hprobe f hmem rfl hnew⟩⟩
    · have hsame : y.registry.circuitState q = x.registry.circuitState q := by
        rw [hy, ResilienceRegistry.circuitState,
          ResilienceRegistry.circuit_recordSuccess_ne hq]
        rfl
      rw [hsame]
      exact ⟨documented_refl _, fun hopen hc => absurd hc hopen⟩

theorem lawful_iff_of_next {a : BreakerAct} (h : x.Inv) (hn : x.next a = some y) :
    Lawful x a y ↔ x.Timely a := by
  cases a with
  | ask at_ now p =>
      simp only [next] at hn
      split at hn
      · obtain rfl := Option.some.inj hn
        refine iff_of_true (lawful_of_circuit (p := p) (fun q hq => ?_) ?_) trivial
        · exact ResilienceRegistry.circuit_allowProviderCall_ne hq now
        · simp only [ResilienceRegistry.circuitState,
            ResilienceRegistry.circuit_allowProviderCall_self]
          exact documented_allow _ _ _
      · cases hn
  | succeed at_ i =>
      simp only [next] at hn
      split at hn
      · obtain ⟨f, hf, rfl⟩ := Option.map_eq_some_iff.mp hn
        exact lawful_succeed_iff h hf _ rfl
      · cases hn
  | fail at_ now i =>
      simp only [next] at hn
      split at hn
      · obtain ⟨f, hf, rfl⟩ := Option.map_eq_some_iff.mp hn
        refine iff_of_true (lawful_of_circuit (p := f.provider) (fun q hq => ?_) ?_) trivial
        · exact ResilienceRegistry.circuit_recordFailure_ne hq now
        · simp only [reportFailure, ResilienceRegistry.circuitState,
            ResilienceRegistry.circuit_recordFailure_self]
          exact documented_recordFailure _ _ _
      · cases hn

/-- Two properties that agree on the steps from states with the invariant agree on
whole runs. -/
theorem always_congr {P Q : BreakerRun → BreakerAct → BreakerRun → Prop}
    (hPQ : ∀ x a y, x.Inv → x.next a = some y → (P x a y ↔ Q x a y))
    {x : BreakerRun} (hx : x.Inv) (acts : List BreakerAct) :
    Always P x acts ↔ Always Q x acts := by
  induction acts generalizing x with
  | nil => exact Iff.rfl
  | cons a rest ih =>
      simp only [Always]
      cases hn : x.next a with
      | none => exact Iff.rfl
      | some y =>
          show (P x a y ∧ Always P y rest) ↔ (Q x a y ∧ Always Q y rest)
          rw [hPQ x a y hx hn, ih (inv_next hx hn)]

/-- Every step of a run from a fresh registry is lawful exactly when every success in
it is timely. -/
theorem lawful_iff_timely (d : ProviderResiliencePolicy)
    (ps : String → Option ProviderResiliencePolicy) (names : List String) (acts : List BreakerAct) :
    Always Lawful (start (.new d ps names)) acts ↔
      Always (fun x a _ => x.Timely a) (start (.new d ps names)) acts := by
  refine always_congr (fun x a y => lawful_iff_of_next) (inv_start fun p => ?_) acts
  rw [ResilienceRegistry.circuitState, ResilienceRegistry.circuit_new]

/-- Two calls overlap, one failure opens the circuit, and the success of the other
closes it a nanosecond later. -/
theorem overlapping_success_closes_open_circuit :
    ¬ Always Lawful
      (start (.new { breaker := { failureThreshold := 1 } } (fun _ => none) ["mock-primary"]))
      [.ask 0 0 "mock-primary", .ask 1 1 "mock-primary", .fail 2 2 1, .succeed 3 0] := by
  intro h
  have hlast := (h.2.2.2.1 "mock-primary").1
  revert hlast
  decide

end BreakerRun
end RustyGate
