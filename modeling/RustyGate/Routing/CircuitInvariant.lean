/-
The representation invariant of a circuit.

The fields of a circuit are reset in different combinations, and the count of failures is
left as it is while the circuit is open or half-open.  `Represents` says what each state
promises about the other fields.  A closed circuit counts the failures since the last
success, and this number is below the threshold.  Every call keeps the promises, whatever
provider it names.
-/
import RustyGate.Routing.Cooldown
import Mathlib.Data.List.Induction

namespace RustyGate

/-- The failures reported for `p` since its last success, or since the start. -/
def failuresSince (p : String) (calls : List BreakerCall) : Nat :=
  ((calls.filter fun c => c.provider = p).reverse.takeWhile
    fun c => c.op ≠ .recordSuccess).countP fun c => c.op = .recordFailure

section FailuresSince

variable {p : String} (calls : List BreakerCall) {c : BreakerCall}

theorem failuresSince_append_ne (hp : c.provider ≠ p) :
    failuresSince p (calls ++ [c]) = failuresSince p calls := by
  simp [failuresSince, List.filter_append, hp]

theorem failuresSince_append_allow (hop : c.op = .allowProviderCall) :
    failuresSince p (calls ++ [c]) = failuresSince p calls := by
  by_cases hp : c.provider = p
  · simp [failuresSince, List.filter_append, hp, hop]
  · exact failuresSince_append_ne calls hp

theorem failuresSince_append_success (hp : c.provider = p) (hop : c.op = .recordSuccess) :
    failuresSince p (calls ++ [c]) = 0 := by
  simp [failuresSince, List.filter_append, hp, hop]

theorem failuresSince_append_failure (hp : c.provider = p) (hop : c.op = .recordFailure) :
    failuresSince p (calls ++ [c]) = failuresSince p calls + 1 := by
  simp [failuresSince, List.filter_append, hp, hop]

end FailuresSince

namespace CircuitBreakerPolicy

theorem threshold_pos (b : CircuitBreakerPolicy) : 0 < b.threshold :=
  Nat.lt_of_lt_of_le Nat.zero_lt_one (Nat.le_max_right _ _)

/-- The threshold is within the range of the counter. -/
theorem threshold_le (b : CircuitBreakerPolicy) : b.threshold ≤ 2 ^ 32 - 1 := by
  have hlt : b.failureThreshold.toNat < 2 ^ 32 := b.failureThreshold.toNat_lt
  rw [threshold]
  omega

end CircuitBreakerPolicy

namespace ProviderCircuitState

/-- What the state of a circuit promises at the instant `now`, after `failures` failures
since the last success. -/
structure Represents (b : CircuitBreakerPolicy) (now failures : Nat)
    (c : ProviderCircuitState) : Prop where
  closed : c.state = .closed → c.openedAt = none ∧ c.halfOpenProbesUsed = 0 ∧
    c.consecutiveFailures = failures ∧ failures < b.threshold
  opened : c.state = .opened → (∃ t, c.openedAt = some t ∧ t ≤ now) ∧ c.halfOpenProbesUsed = 0
  halfOpen : c.state = .halfOpen →
    1 ≤ c.halfOpenProbesUsed ∧ c.halfOpenProbesUsed ≤ b.maxProbes

section Steps

variable {b : CircuitBreakerPolicy} {now failures : Nat} {c : ProviderCircuitState}

/-- A circuit as it is created. -/
theorem represents_default (b : CircuitBreakerPolicy) (now : Nat) :
    Represents b now 0 ({} : ProviderCircuitState) :=
  ⟨fun _ => ⟨rfl, rfl, rfl, b.threshold_pos⟩, fun hs => (nomatch hs), fun hs => (nomatch hs)⟩

theorem Represents.allowProviderCall (h : c.Represents b now failures) (reading : Nat) :
    (c.allowProviderCall b reading).2.Represents b now failures := by
  cases hres : c.allowProviderCall b reading with
  | mk allowed c' =>
      cases allowed with
      | false =>
          obtain ⟨rfl, -⟩ := allow_false hres
          exact h
      | true =>
          rcases allow_true hres with ⟨-, rfl⟩ | ⟨-, -, rfl⟩ | ⟨hs, hprobes, rfl⟩
          · exact h
          · exact ⟨fun hs => (nomatch hs), fun hs => (nomatch hs),
              fun _ => ⟨Nat.le_refl 1, b.maxProbes_pos⟩⟩
          · exact ⟨fun hs' => (nomatch hs.symm.trans hs'), fun hs' => (nomatch hs.symm.trans hs'),
              fun _ => ⟨Nat.le_add_left 1 _, hprobes⟩⟩

theorem represents_recordSuccess (b : CircuitBreakerPolicy) (now : Nat)
    (c : ProviderCircuitState) : c.recordSuccess.Represents b now 0 :=
  represents_default b now

/-- Below the threshold the counter does not saturate. -/
theorem Represents.counter (h : c.Represents b now failures) (hs : c.state = .closed) :
    min (c.consecutiveFailures + 1) (2 ^ 32 - 1) = failures + 1 := by
  obtain ⟨-, -, hcount, hlt⟩ := h.closed hs
  have hmax := b.threshold_le
  omega

theorem Represents.recordFailure (h : c.Represents b now failures) {reading : Nat}
    (hreading : reading ≤ now) : (c.recordFailure b reading).Represents b now (failures + 1) := by
  cases hs : c.state with
  | closed =>
      obtain ⟨hopened, hprobes, -, -⟩ := h.closed hs
      simp only [ProviderCircuitState.recordFailure, hs, h.counter hs]
      by_cases hfull : b.threshold ≤ failures + 1
      · rw [if_pos hfull]
        exact ⟨fun hs => (nomatch hs), fun _ => ⟨⟨reading, rfl, hreading⟩, rfl⟩,
          fun hs => (nomatch hs)⟩
      · rw [if_neg hfull]
        exact ⟨fun _ => ⟨hopened, hprobes, rfl, Nat.lt_of_not_le hfull⟩,
          fun hs => (nomatch hs), fun hs => (nomatch hs)⟩
  | opened =>
      have hsame : c.recordFailure b reading = c := by
        simp [ProviderCircuitState.recordFailure, hs]
      rw [hsame]
      exact ⟨fun hs' => (nomatch hs.symm.trans hs'), fun _ => h.opened hs,
        fun hs' => (nomatch hs.symm.trans hs')⟩
  | halfOpen =>
      simp only [ProviderCircuitState.recordFailure, hs]
      exact ⟨fun hs => (nomatch hs), fun _ => ⟨⟨reading, rfl, hreading⟩, rfl⟩,
        fun hs => (nomatch hs)⟩

/-- A closed circuit opens at the failure that reaches the threshold. -/
theorem Represents.opens_iff (h : c.Represents b now failures) (hs : c.state = .closed)
    (reading : Nat) :
    (c.recordFailure b reading).state = .opened ↔ failures + 1 = b.threshold := by
  obtain ⟨-, -, -, hlt⟩ := h.closed hs
  simp only [ProviderCircuitState.recordFailure, hs, h.counter hs]
  by_cases hfull : b.threshold ≤ failures + 1
  · rw [if_pos hfull]
    exact iff_of_true rfl (Nat.le_antisymm hlt hfull)
  · rw [if_neg hfull]
    exact iff_of_false (fun hs' => (nomatch hs')) (by omega)

end Steps

end ProviderCircuitState

namespace ResilienceRegistry

/-- The registry after a run. -/
def afterAll (r : ResilienceRegistry) (calls : List BreakerCall) : ResilienceRegistry :=
  calls.foldl after r

theorem afterAll_append (r : ResilienceRegistry) (calls : List BreakerCall) (c : BreakerCall) :
    r.afterAll (calls ++ [c]) = (r.afterAll calls).after c := by
  rw [afterAll, List.foldl_append]
  rfl

theorem breakerFor_afterAll (r : ResilienceRegistry) (calls : List BreakerCall) (p : String) :
    (r.afterAll calls).breakerFor p = r.breakerFor p := by
  induction calls generalizing r with
  | nil => rfl
  | cons c rest ih => exact (ih (r.after c)).trans (breakerFor_after r c p)

/-- A call writes no entry but that of the provider it names. -/
theorem circuits_after_ne (r : ResilienceRegistry) {c : BreakerCall} {p : String}
    (hp : c.provider ≠ p) : (r.after c).circuits p = r.circuits p := by
  unfold after
  cases c.op <;> exact Function.update_of_ne (Ne.symm hp) _ _

/-- One call keeps what the circuits promise. -/
theorem represents_after {r : ResilienceRegistry} {p : String} {calls : List BreakerCall}
    {now : Nat} (h : (r.circuit p).Represents (r.breakerFor p) now (failuresSince p calls))
    {c : BreakerCall} (hnow : c.now ≤ now) :
    ((r.after c).circuit p).Represents (r.breakerFor p) now (failuresSince p (calls ++ [c])) := by
  by_cases hp : c.provider = p
  · cases hop : c.op with
    | allowProviderCall =>
        rw [failuresSince_append_allow calls hop, after, hop, hp, circuit_allowProviderCall_self]
        exact h.allowProviderCall c.now
    | recordSuccess =>
        rw [failuresSince_append_success calls hp hop, after, hop, hp, circuit_recordSuccess_self]
        exact ProviderCircuitState.represents_recordSuccess _ _ _
    | recordFailure =>
        rw [failuresSince_append_failure calls hp hop, after, hop, hp, circuit_recordFailure_self]
        exact h.recordFailure hnow
  · rw [failuresSince_append_ne calls hp, circuit_after_ne hp]
    exact h

/-- Every run from a fresh registry keeps what the circuits promise. -/
theorem represents_afterAll (d : ProviderResiliencePolicy)
    (ps : String → Option ProviderResiliencePolicy) (names : List String)
    {calls : List BreakerCall} {now : Nat} (hnow : ∀ c ∈ calls, c.now ≤ now) (p : String) :
    (((new d ps names).afterAll calls).circuit p).Represents ((new d ps names).breakerFor p) now
      (failuresSince p calls) := by
  induction calls using List.reverseRecOn with
  | nil =>
      rw [afterAll, List.foldl_nil, circuit_new]
      exact ProviderCircuitState.represents_default _ _
  | append_singleton calls c ih =>
      have hrest := ih fun c' hc' => hnow c' (List.mem_append_left _ hc')
      have hlast : c.now ≤ now := hnow c (List.mem_append_right _ (List.mem_singleton_self c))
      rw [afterAll_append]
      rw [← breakerFor_afterAll (new d ps names) calls p] at hrest ⊢
      exact represents_after hrest hlast

/-- A closed circuit is opened by a failure of its own provider that reaches the threshold,
and by nothing else. -/
theorem opens_after_iff {r : ResilienceRegistry} {p : String} {now failures : Nat}
    (h : (r.circuit p).Represents (r.breakerFor p) now failures)
    (hs : r.circuitState p = .closed) (c : BreakerCall) :
    (r.after c).circuitState p = .opened ↔
      c.provider = p ∧ c.op = .recordFailure ∧ failures + 1 = (r.breakerFor p).threshold := by
  rw [circuitState] at hs ⊢
  by_cases hp : c.provider = p
  · cases hop : c.op with
    | allowProviderCall =>
        have hsame : (r.circuit p).allowProviderCall (r.breakerFor p) c.now =
            (true, r.circuit p) := by
          simp [ProviderCircuitState.allowProviderCall, hs]
        rw [after, hop, hp, circuit_allowProviderCall_self, hsame]
        simp [hs]
    | recordSuccess =>
        rw [after, hop, hp, circuit_recordSuccess_self]
        simp [ProviderCircuitState.recordSuccess]
    | recordFailure =>
        rw [after, hop, hp, circuit_recordFailure_self]
        simpa using h.opens_iff hs c.now
  · rw [circuit_after_ne hp, hs]
    simp [hp]

/-- The promises hold after every run in which no call has read a later instant than `now`.
From there on, a closed circuit opens exactly at the failure that reaches the threshold, and
a call on another provider leaves the entry of `p` as it is. -/
theorem circuits_represent (d : ProviderResiliencePolicy)
    (ps : String → Option ProviderResiliencePolicy) (names : List String)
    (calls : List BreakerCall) (now : Nat) (hnow : ∀ c ∈ calls, c.now ≤ now) (p : String) :
    let r := (new d ps names).afterAll calls
    (r.circuit p).Represents (r.breakerFor p) now (failuresSince p calls) ∧
      ∀ c : BreakerCall,
        (r.circuitState p = .closed →
          ((r.after c).circuitState p = .opened ↔ c.provider = p ∧ c.op = .recordFailure ∧
            failuresSince p calls + 1 = (r.breakerFor p).threshold)) ∧
        (c.provider ≠ p → (r.after c).circuits p = r.circuits p) := by
  intro r
  have h : (r.circuit p).Represents (r.breakerFor p) now (failuresSince p calls) := by
    rw [breakerFor_afterAll]
    exact represents_afterAll d ps names hnow p
  exact ⟨h, fun c => ⟨fun hs => opens_after_iff h hs c, circuits_after_ne r⟩⟩

/-- Two failures, a success and a failure again: one failure is counted. -/
theorem circuits_represent_reset :
    let calls : List BreakerCall := [⟨1, "a", .recordFailure⟩, ⟨2, "a", .recordFailure⟩,
      ⟨2, "b", .recordFailure⟩, ⟨3, "a", .recordSuccess⟩, ⟨4, "a", .recordFailure⟩]
    ((((new {} (fun _ => none) ["a"]).afterAll calls).circuit "a").Represents {} 4 1) := by
  intro calls
  have hnow : ∀ c ∈ calls, c.now ≤ 4 := by decide
  exact (circuits_represent {} (fun _ => none) ["a"] calls 4 hnow "a").1

end ResilienceRegistry
end RustyGate
