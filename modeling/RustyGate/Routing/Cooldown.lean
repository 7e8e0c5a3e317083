/-
Cool-down and probe budget of a circuit.

A run of the registry is a list of timed calls on any providers.  Seen from one
provider, only the calls that name it matter (`answers_eq_circuitAnswers`), so a
stretch without `record_*` calls for it is a list of instants at which it is asked
for.  Such a list is answered in three blocks: refusals until the cool-down has
run, then one admission for each probe of the budget, then refusals again.
-/
import RustyGate.Routing.Resilience
import Mathlib.Data.List.Basic

namespace RustyGate

inductive BreakerOp where
  | allowProviderCall
  | recordSuccess
  | recordFailure
  deriving DecidableEq, Repr

/-- One call of the registry's interface, with the reading of the clock it uses. -/
structure BreakerCall where
  now : Nat
  provider : String
  op : BreakerOp
  deriving DecidableEq, Repr

namespace ResilienceRegistry

/-- The registry after a call. -/
def after (r : ResilienceRegistry) (c : BreakerCall) : ResilienceRegistry :=
  match c.op with
  | .allowProviderCall => (r.allowProviderCall c.now c.provider).2
  | .recordSuccess => r.recordSuccess c.provider
  | .recordFailure => r.recordFailure c.now c.provider

/-- The answers to the `allow_provider_call`s for `p` in a run, each with the
instant it was given. -/
def answers (p : String) : ResilienceRegistry → List BreakerCall → List (Nat × Bool)
  | _, [] => []
  | r, c :: rest =>
      if c.provider = p ∧ c.op = .allowProviderCall then
        (c.now, (r.allowProviderCall c.now p).1) :: answers p (r.after c) rest
      else answers p (r.after c) rest

theorem breakerFor_after (r : ResilienceRegistry) (c : BreakerCall) (p : String) :
    (r.after c).breakerFor p = r.breakerFor p := by
  unfold after
  cases c.op <;> rfl

/-- A call on another provider leaves the circuit of `p` alone. -/
theorem circuit_after_ne {r : ResilienceRegistry} {c : BreakerCall} {p : String}
    (h : c.provider ≠ p) : (r.after c).circuit p = r.circuit p := by
  unfold after
  cases c.op with
  | allowProviderCall => exact circuit_allowProviderCall_ne (Ne.symm h) c.now
  | recordSuccess => exact circuit_recordSuccess_ne (Ne.symm h)
  | recordFailure => exact circuit_recordFailure_ne (Ne.symm h) c.now

/-- A circuit that a call opens has opened at the instant of that call. -/
theorem openedAt_of_opens {r : ResilienceRegistry} {c : BreakerCall} {p : String}
    (hbefore : r.circuitState p ≠ .opened) (hafter : (r.after c).circuitState p = .opened) :
    ((r.after c).circuit p).openedAt = some c.now := by
  simp only [circuitState] at hbefore hafter
  by_cases hp : c.provider = p
  · subst hp
    unfold after at hafter ⊢
    cases hop : c.op with
    | allowProviderCall =>
        simp only [hop, circuit_allowProviderCall_self] at hafter
        cases hres : (r.circuit c.provider).allowProviderCall (r.breakerFor c.provider) c.now with
        | mk allowed c' =>
            rw [hres] at hafter
            cases allowed with
            | true =>
                rcases ProviderCircuitState.allow_true hres with
                  ⟨-, rfl⟩ | ⟨-, -, rfl⟩ | ⟨hs, -, rfl⟩
                · exact absurd hafter hbefore
                · cases hafter
                · rw [show _ = _ from hafter] at hs
                  cases hs
            | false =>
                obtain ⟨rfl, -⟩ := ProviderCircuitState.allow_false hres
                exact absurd hafter hbefore
    | recordSuccess =>
        simp [hop, ProviderCircuitState.recordSuccess] at hafter
    | recordFailure =>
        simp only [hop, circuit_recordFailure_self] at hafter ⊢
        rcases ProviderCircuitState.recordFailure_cases (r.breakerFor c.provider) c.now
          (r.circuit c.provider) with ⟨-, h, -⟩ | ⟨-, -, h, -⟩ | ⟨h, -⟩
        · rw [h] at hafter
          cases hafter
        · exact h
        · exact absurd h hbefore
  · rw [circuit_after_ne hp] at hafter
    exact absurd hafter hbefore

end ResilienceRegistry

/-! ## One circuit asked at a list of instants -/

namespace ProviderCircuitState

def circuitAnswers (b : CircuitBreakerPolicy) :
    ProviderCircuitState → List Nat → List (Nat × Bool)
  | _, [] => []
  | c, t :: ts =>
      (t, (c.allowProviderCall b t).1) :: circuitAnswers b (c.allowProviderCall b t).2 ts

theorem circuitAnswers_map_fst (b : CircuitBreakerPolicy) (c : ProviderCircuitState)
    (ts : List Nat) : (circuitAnswers b c ts).map Prod.fst = ts := by
  induction ts generalizing c with
  | nil => rfl
  | cons t ts ih => simp only [circuitAnswers, List.map_cons, ih]

/-- A half-open circuit grants what is left of its budget and then nothing. -/
theorem circuitAnswers_halfOpen {b : CircuitBreakerPolicy} {c : ProviderCircuitState}
    (hs : c.state = .halfOpen) (ts : List Nat) :
    (circuitAnswers b c ts).map Prod.snd =
      List.replicate (min ts.length (b.maxProbes - c.halfOpenProbesUsed)) true ++
        List.replicate (ts.length - (b.maxProbes - c.halfOpenProbesUsed)) false := by
  induction ts generalizing c with
  | nil => simp [circuitAnswers]
  | cons t ts ih =>
      by_cases hu : c.halfOpenProbesUsed < b.maxProbes
      · have hstep : c.allowProviderCall b t =
            (true, { c with halfOpenProbesUsed := c.halfOpenProbesUsed + 1 }) := by
          simp [allowProviderCall, hs, hu]
        simp only [circuitAnswers, hstep, List.map_cons, List.length_cons]
        rw [ih (c := { c with halfOpenProbesUsed := c.halfOpenProbesUsed + 1 }) hs]
        have hmin : min (ts.length + 1) (b.maxProbes - c.halfOpenProbesUsed) =
            min ts.length (b.maxProbes - (c.halfOpenProbesUsed + 1)) + 1 := by omega
        have hsub : ts.length + 1 - (b.maxProbes - c.halfOpenProbesUsed) =
            ts.length - (b.maxProbes - (c.halfOpenProbesUsed + 1)) := by omega
        rw [hmin, hsub, List.replicate_succ, List.cons_append]
      · have hstep : c.allowProviderCall b t = (false, c) := by
          simp [allowProviderCall, hs, hu]
        simp only [circuitAnswers, hstep, List.map_cons, List.length_cons, ih hs]
        have hzero : b.maxProbes - c.halfOpenProbesUsed = 0 := by omega
        rw [hzero]
        simp [List.replicate_succ]

/-- An open circuit refuses until the cool-down has run, then grants one call for
each probe of its budget, then refuses. -/
theorem circuitAnswers_opened {b : CircuitBreakerPolicy} {c : ProviderCircuitState}
    {t₀ : Nat} (hs : c.state = .opened) (ho : c.openedAt = some t₀) {ts : List Nat}
    (hsorted : ts.Pairwise (· ≤ ·)) (hlate : ∀ t ∈ ts, t₀ ≤ t) :
    (∀ a ∈ circuitAnswers b c ts, a.1 < t₀ + b.openDuration → a.2 = false) ∧
    ((circuitAnswers b c ts).filter fun a => t₀ + b.openDuration ≤ a.1).map Prod.snd =
      List.replicate
        (min ((ts.filter fun t => t₀ + b.openDuration ≤ t).length) b.maxProbes) true ++
      List.replicate
        ((ts.filter fun t => t₀ + b.openDuration ≤ t).length - b.maxProbes) false := by
  induction ts with
  | nil => simp [circuitAnswers]
  | cons t ts ih =>
      have ht : t₀ ≤ t := hlate t List.mem_cons_self
      have hready : c.readyForProbe b t = decide (t₀ + b.openDuration ≤ t) := by
        simp only [readyForProbe, ho]
        exact decide_eq_decide.mpr (by omega)
      obtain ⟨hhead, htail⟩ := List.pairwise_cons.mp hsorted
      by_cases hcool : t₀ + b.openDuration ≤ t
      · -- The first late caller enters half-open.  All later instants are late too.
        have hstep : c.allowProviderCall b t =
            (true, { c with state := .halfOpen, halfOpenProbesUsed := 1 }) := by
          simp [allowProviderCall, hs, hready, hcool]
        have hall : ∀ u ∈ ts, t₀ + b.openDuration ≤ u := fun u hu =>
          Nat.le_trans hcool (hhead u hu)
        have hrest := circuitAnswers_halfOpen (b := b)
          (c := { c with state := .halfOpen, halfOpenProbesUsed := 1 }) rfl ts
        have hfst := circuitAnswers_map_fst b
          { c with state := .halfOpen, halfOpenProbesUsed := 1 } ts
        have hkeep : (circuitAnswers b { c with state := .halfOpen, halfOpenProbesUsed := 1 }
            ts).filter (fun a => t₀ + b.openDuration ≤ a.1) =
            circuitAnswers b { c with state := .halfOpen, halfOpenProbesUsed := 1 } ts := by
          refine List.filter_eq_self.mpr fun a ha => ?_
          have : a.1 ∈ ts := by rw [← hfst]; exact List.mem_map_of_mem ha
          simpa using hall a.1 this
        have hkeep' : (ts.filter fun u => t₀ + b.openDuration ≤ u) = ts :=
          List.filter_eq_self.mpr fun u hu => by simpa using hall u hu
        have hpos := b.maxProbes_pos
        constructor
        · intro a ha hlt
          have : a.1 ∈ t :: ts := by
            rw [← circuitAnswers_map_fst b c (t :: ts)]
            exact List.mem_map_of_mem ha
          rcases List.mem_cons.mp this with h | h
          · omega
          · have := hall a.1 h
            omega
        · simp only [circuitAnswers, hstep, List.filter_cons, hcool, decide_true, if_true,
            hkeep, hkeep', List.map_cons, List.length_cons, hrest]
          have hmin : min (ts.length + 1) b.maxProbes =
              min ts.length (b.maxProbes - 1) + 1 := by omega
          have hsub : ts.length + 1 - b.maxProbes = ts.length - (b.maxProbes - 1) := by omega
          rw [hmin, hsub, List.replicate_succ, List.cons_append]
      · have hstep : c.allowProviderCall b t = (false, c) := by
          simp [allowProviderCall, hs, hready, hcool]
        obtain ⟨hearly, hbudget⟩ := ih htail fun u hu => hlate u (List.mem_cons_of_mem t hu)
        constructor
        · intro a ha hlt
          simp only [circuitAnswers, hstep] at ha
          rcases List.mem_cons.mp ha with rfl | ha
          · rfl
          · exact hearly a ha hlt
        · simp only [circuitAnswers, hstep, List.filter_cons, hcool, decide_false,
            Bool.false_eq_true, if_false]
          exact hbudget

end ProviderCircuitState

namespace ResilienceRegistry

/-- The instants at which `p` is asked for. -/
def asked (p : String) (cs : List BreakerCall) : List Nat :=
  cs.filterMap fun c => if c.provider = p then some c.now else none

/-- Without `record_*` calls for `p`, its answers are those of its circuit alone. -/
theorem answers_eq_circuitAnswers {p : String} (r : ResilienceRegistry) {cs : List BreakerCall}
    (hquiet : ∀ c ∈ cs, c.provider = p → c.op = .allowProviderCall) :
    answers p r cs = (r.circuit p).circuitAnswers (r.breakerFor p) (asked p cs) := by
  induction cs generalizing r with
  | nil => rfl
  | cons c cs ih =>
      have hrest := ih (r.after c) fun d hd => hquiet d (List.mem_cons_of_mem c hd)
      rw [breakerFor_after] at hrest
      by_cases hp : c.provider = p
      · have hop : c.op = .allowProviderCall := hquiet c List.mem_cons_self hp
        have hcircuit : (r.after c).circuit p =
            ((r.circuit p).allowProviderCall (r.breakerFor p) c.now).2 := by
          simp [after, hop, ← hp]
        rw [hcircuit] at hrest
        simp only [answers, hp, hop, and_self, if_true, asked, List.filterMap_cons,
          ProviderCircuitState.circuitAnswers, allowProviderCall_fst]
        rw [hrest]
        rfl
      · rw [circuit_after_ne hp] at hrest
        simp only [answers, hp, false_and, if_false, asked, List.filterMap_cons]
        exact hrest

theorem asked_filter (p : String) (cs : List BreakerCall) :
    asked p (cs.filter fun c => c.provider = p) = asked p cs := by
  induction cs with
  | nil => rfl
  | cons c cs ih =>
      by_cases hp : c.provider = p
      · simp only [asked, List.filter_cons, hp, decide_true, if_true,
          List.filterMap_cons] at ih ⊢
        rw [ih]
      · simp only [asked, List.filter_cons, hp, decide_false, Bool.false_eq_true, if_false,
          List.filterMap_cons] at ih ⊢
        exact ih

theorem asked_sorted {p : String} {cs : List BreakerCall}
    (h : cs.Pairwise fun a b => a.now ≤ b.now) : (asked p cs).Pairwise (· ≤ ·) := by
  refine List.Pairwise.filterMap _ ?_ h
  intro a b hab x hx y hy
  simp only [Option.ite_none_right_eq_some, Option.some.injEq] at hx hy
  omega

/-- From the call that opens the circuit of `p` on, and as long as no result is
reported for `p`, every caller before the end of the cool-down is refused, and of
the later ones exactly the first `max(half_open_max_probes, 1)` are let through.
The calls on other providers have no part in it. -/
theorem cooldown_then_probe_budget (r : ResilienceRegistry) (p : String) (opening : BreakerCall)
    (stretch : List BreakerCall) (hbefore : r.circuitState p ≠ .opened)
    (hopens : (r.after opening).circuitState p = .opened)
    (hclock : (opening :: stretch).Pairwise fun a b => a.now ≤ b.now)
    (hquiet : ∀ c ∈ stretch, c.provider = p → c.op = .allowProviderCall) :
    let ready := opening.now + (r.breakerFor p).openDuration
    let given := answers p (r.after opening) stretch
    let late := given.filter fun a => ready ≤ a.1
    (∀ a ∈ given, a.1 < ready → a.2 = false) ∧
    late.map Prod.snd =
      List.replicate (min late.length (r.breakerFor p).maxProbes) true ++
        List.replicate (late.length - (r.breakerFor p).maxProbes) false ∧
    given = answers p (r.after opening) (stretch.filter fun c => c.provider = p) := by
  obtain ⟨hfirst, hsorted⟩ := List.pairwise_cons.mp hclock
  have hopened := openedAt_of_opens hbefore hopens
  have hgiven := answers_eq_circuitAnswers (r.after opening) hquiet
  rw [breakerFor_after] at hgiven
  have hafter : ∀ t ∈ asked p stretch, opening.now ≤ t := by
    intro t ht
    simp only [asked, List.mem_filterMap, Option.ite_none_right_eq_some,
      Option.some.injEq] at ht
    obtain ⟨c, hc, -, rfl⟩ := ht
    exact hfirst c hc
  obtain ⟨hearly, hlate⟩ := ProviderCircuitState.circuitAnswers_opened
    (b := r.breakerFor p) hopens hopened (asked_sorted hsorted) hafter
  have hlength : ((answers p (r.after opening) stretch).filter
      fun a => opening.now + (r.breakerFor p).openDuration ≤ a.1).length =
      ((asked p stretch).filter
        fun t => opening.now + (r.breakerFor p).openDuration ≤ t).length := by
    rw [hgiven, ← ProviderCircuitState.circuitAnswers_map_fst (r.breakerFor p)
      ((r.after opening).circuit p) (asked p stretch), List.filter_map, List.length_map]
    rw [ProviderCircuitState.circuitAnswers_map_fst]
    rfl
  refine ⟨?_, ?_, ?_⟩
  · rw [hgiven]
    exact hearly
  · rw [hlength, hgiven]
    exact hlate
  · have hquiet' : ∀ c ∈ stretch.filter fun c => c.provider = p,
        c.provider = p → c.op = .allowProviderCall := fun c hc =>
      hquiet c (List.mem_of_mem_filter hc)
    rw [answers_eq_circuitAnswers (r.after opening) hquiet,
      answers_eq_circuitAnswers (r.after opening) hquiet', asked_filter]

/-- A provider that opens at its first failure, cools down for one millisecond and
allows two probes. -/
def twoProbes : ResilienceRegistry :=
  new { breaker := { failureThreshold := 1, openDurationMs := 1, halfOpenMaxProbes := 2 } }
    (fun _ => none) ["mock-primary"]

theorem cooldown_then_probe_budget_twoProbes :
    let opening : BreakerCall := ⟨5, "mock-primary", .recordFailure⟩
    let stretch : List BreakerCall :=
      [⟨6, "mock-primary", .allowProviderCall⟩, ⟨7, "mock-other", .recordFailure⟩,
        ⟨1000005, "mock-primary", .allowProviderCall⟩,
        ⟨1000006, "mock-primary", .allowProviderCall⟩,
        ⟨1000007, "mock-primary", .allowProviderCall⟩]
    (∀ a ∈ answers "mock-primary" (twoProbes.after opening) stretch,
      a.1 < 1000005 → a.2 = false) ∧
    answers "mock-primary" (twoProbes.after opening) stretch =
      [(6, false), (1000005, true), (1000006, true), (1000007, false)] :=
  ⟨(cooldown_then_probe_budget twoProbes "mock-primary" ⟨5, "mock-primary", .recordFailure⟩ _
    (by decide) (by decide) (by decide) (by decide)).1, by decide⟩

end ResilienceRegistry
end RustyGate
