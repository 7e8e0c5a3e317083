/-
The circuit breaker of `src/routing/resilience.rs`.

Each provider has a circuit.  A closed circuit lets every call through and counts
failures in a row.  At the threshold it opens, and no call passes until the
cool-down has run.  The first caller after that moves the circuit to half-open and
is itself the first probe, and a bounded number of further probes may follow.  A
reported success closes the circuit from any state, and a reported failure opens a
half-open one.

An instant is a number of nanoseconds.  The lock around the map of circuits makes
each operation one step, and since no operation can panic while it holds the lock
the branches for a poisoned lock are never taken.
-/
import Mathlib.Algebra.Ring.Nat
import Mathlib.Logic.Function.Basic
import Mathlib.Order.Lattice

namespace RustyGate

inductive CircuitState where
  | closed
  | opened
  | halfOpen
  deriving DecidableEq, Repr

structure RetryPolicy where
  maxRetries : UInt32 := 0
  initialBackoffMs : UInt64 := 100
  maxBackoffMs : UInt64 := 2000
  jitterMs : UInt64 := 50
  deriving DecidableEq, Repr

structure CircuitBreakerPolicy where
  failureThreshold : UInt32 := 3
  openDurationMs : UInt64 := 5000
  halfOpenMaxProbes : UInt32 := 1
  deriving DecidableEq, Repr

structure ProviderResiliencePolicy where
  timeoutMs : Option UInt64 := none
  retry : RetryPolicy := {}
  breaker : CircuitBreakerPolicy := {}
  deriving DecidableEq, Repr

structure ProviderCircuitState where
  state : CircuitState := .closed
  consecutiveFailures : Nat := 0
  openedAt : Option Nat := none
  halfOpenProbesUsed : Nat := 0
  deriving DecidableEq, Repr

namespace CircuitBreakerPolicy

/-- `failure_threshold.max(1)`. -/
def threshold (b : CircuitBreakerPolicy) : Nat := max b.failureThreshold.toNat 1

/-- `half_open_max_probes.max(1)`. -/
def maxProbes (b : CircuitBreakerPolicy) : Nat := max b.halfOpenMaxProbes.toNat 1

/-- `Duration::from_millis(open_duration_ms)`, in nanoseconds. -/
def openDuration (b : CircuitBreakerPolicy) : Nat := b.openDurationMs.toNat * 1000000

theorem maxProbes_pos (b : CircuitBreakerPolicy) : 0 < b.maxProbes :=
  Nat.lt_of_lt_of_le Nat.zero_lt_one (Nat.le_max_right _ _)

end CircuitBreakerPolicy

namespace ProviderCircuitState

/-- `opened_at.is_none_or(|opened| now.duration_since(opened) >= open_duration)`.
`duration_since` is zero when `opened` is later than `now`. -/
def readyForProbe (b : CircuitBreakerPolicy) (now : Nat) (c : ProviderCircuitState) : Bool :=
  match c.openedAt with
  | none => true
  | some opened => b.openDuration ≤ now - opened

def allowProviderCall (b : CircuitBreakerPolicy) (now : Nat) (c : ProviderCircuitState) :
    Bool × ProviderCircuitState :=
  match c.state with
  | .closed => (true, c)
  | .opened =>
      if c.readyForProbe b now then
        (true, { c with state := .halfOpen, halfOpenProbesUsed := 1 })
      else (false, c)
  | .halfOpen =>
      if c.halfOpenProbesUsed < b.maxProbes then
        (true, { c with halfOpenProbesUsed := c.halfOpenProbesUsed + 1 })
      else (false, c)

def recordSuccess (_ : ProviderCircuitState) : ProviderCircuitState :=
  { state := .closed, consecutiveFailures := 0, openedAt := none, halfOpenProbesUsed := 0 }

def recordFailure (b : CircuitBreakerPolicy) (now : Nat) (c : ProviderCircuitState) :
    ProviderCircuitState :=
  match c.state with
  | .closed =>
      -- `saturating_add` on a `u32`
      let failures := min (c.consecutiveFailures + 1) (2 ^ 32 - 1)
      if b.threshold ≤ failures then
        { state := .opened, consecutiveFailures := failures, openedAt := some now,
          halfOpenProbesUsed := 0 }
      else { c with consecutiveFailures := failures }
  | .halfOpen => { c with state := .opened, openedAt := some now, halfOpenProbesUsed := 0 }
  | .opened => c

end ProviderCircuitState

/-- The policies never change.  `circuits` is the map behind the lock. -/
structure ResilienceRegistry where
  defaultPolicy : ProviderResiliencePolicy
  providerPolicies : String → Option ProviderResiliencePolicy
  circuits : String → Option ProviderCircuitState

namespace ResilienceRegistry

/-- `ResilienceRegistry::new`: every named provider starts closed. -/
def new (defaultPolicy : ProviderResiliencePolicy)
    (providerPolicies : String → Option ProviderResiliencePolicy)
    (providerNames : List String) : ResilienceRegistry where
  defaultPolicy := defaultPolicy
  providerPolicies := providerPolicies
  circuits := fun p => if p ∈ providerNames then some {} else none

variable (r : ResilienceRegistry)

def policyFor (p : String) : ProviderResiliencePolicy :=
  (r.providerPolicies p).getD r.defaultPolicy

def breakerFor (p : String) : CircuitBreakerPolicy :=
  (r.policyFor p).breaker

/-- The circuit an operation on `p` finds: `entry(p).or_insert_with(default)`. -/
def circuit (p : String) : ProviderCircuitState :=
  (r.circuits p).getD {}

def setCircuit (p : String) (c : ProviderCircuitState) :
    ResilienceRegistry :=
  { r with circuits := Function.update r.circuits p (some c) }

def allowProviderCall (now : Nat) (p : String) :
    Bool × ResilienceRegistry :=
  let (allowed, c) := (r.circuit p).allowProviderCall (r.breakerFor p) now
  (allowed, r.setCircuit p c)

def recordSuccess (p : String) : ResilienceRegistry :=
  r.setCircuit p (r.circuit p).recordSuccess

def recordFailure (now : Nat) (p : String) : ResilienceRegistry :=
  r.setCircuit p ((r.circuit p).recordFailure (r.breakerFor p) now)

def circuitState (p : String) : CircuitState := (r.circuit p).state

/-! ## One operation, one circuit -/

@[simp] theorem circuit_setCircuit_self (p : String)
    (c : ProviderCircuitState) : (r.setCircuit p c).circuit p = c := by
  simp [circuit, setCircuit]

@[simp] theorem circuit_setCircuit_ne {r : ResilienceRegistry} {p q : String} (h : q ≠ p)
    (c : ProviderCircuitState) : (r.setCircuit p c).circuit q = r.circuit q := by
  simp [circuit, setCircuit, Function.update_of_ne h]

@[simp] theorem policyFor_setCircuit (p q : String)
    (c : ProviderCircuitState) : (r.setCircuit p c).policyFor q = r.policyFor q := rfl

@[simp] theorem breakerFor_setCircuit (p q : String)
    (c : ProviderCircuitState) : (r.setCircuit p c).breakerFor q = r.breakerFor q := rfl

@[simp] theorem breakerFor_allowProviderCall (now : Nat)
    (p q : String) : (r.allowProviderCall now p).2.breakerFor q = r.breakerFor q := rfl

@[simp] theorem breakerFor_recordSuccess (p q : String) :
    (r.recordSuccess p).breakerFor q = r.breakerFor q := rfl

@[simp] theorem breakerFor_recordFailure (now : Nat) (p q : String) :
    (r.recordFailure now p).breakerFor q = r.breakerFor q := rfl

@[simp] theorem allowProviderCall_fst (now : Nat) (p : String) :
    (r.allowProviderCall now p).1 =
      ((r.circuit p).allowProviderCall (r.breakerFor p) now).1 := rfl

@[simp] theorem circuit_allowProviderCall_self (now : Nat) (p : String) :
    (r.allowProviderCall now p).2.circuit p =
      ((r.circuit p).allowProviderCall (r.breakerFor p) now).2 := by
  simp [allowProviderCall]

@[simp] theorem circuit_allowProviderCall_ne {r : ResilienceRegistry} {p q : String}
    (h : q ≠ p) (now : Nat) : (r.allowProviderCall now p).2.circuit q = r.circuit q := by
  simp [allowProviderCall, h]

@[simp] theorem circuit_recordSuccess_self (p : String) :
    (r.recordSuccess p).circuit p = (r.circuit p).recordSuccess := by
  simp [recordSuccess]

@[simp] theorem circuit_recordSuccess_ne {r : ResilienceRegistry} {p q : String} (h : q ≠ p) :
    (r.recordSuccess p).circuit q = r.circuit q := by
  simp [recordSuccess, h]

@[simp] theorem circuit_recordFailure_self (now : Nat) (p : String) :
    (r.recordFailure now p).circuit p =
      (r.circuit p).recordFailure (r.breakerFor p) now := by
  simp [recordFailure]

@[simp] theorem circuit_recordFailure_ne {r : ResilienceRegistry} {p q : String} (h : q ≠ p)
    (now : Nat) : (r.recordFailure now p).circuit q = r.circuit q := by
  simp [recordFailure, h]

@[simp] theorem circuit_new (d : ProviderResiliencePolicy)
    (ps : String → Option ProviderResiliencePolicy) (names : List String) (p : String) :
    (new d ps names).circuit p = {} := by
  by_cases h : p ∈ names <;> simp [new, circuit, h]

end ResilienceRegistry

/-! ## What an operation does to its circuit -/

namespace ProviderCircuitState

/-- The three ways a call is let through. -/
theorem allow_true {b : CircuitBreakerPolicy} {now : Nat} {c c' : ProviderCircuitState}
    (h : c.allowProviderCall b now = (true, c')) :
    (c.state = .closed ∧ c' = c) ∨
    (c.state = .opened ∧ c.readyForProbe b now = true ∧
      c' = { c with state := .halfOpen, halfOpenProbesUsed := 1 }) ∨
    (c.state = .halfOpen ∧ c.halfOpenProbesUsed < b.maxProbes ∧
      c' = { c with halfOpenProbesUsed := c.halfOpenProbesUsed + 1 }) := by
  unfold allowProviderCall at h
  cases hs : c.state with
  | closed =>
      simp only [hs, Prod.mk.injEq, true_and] at h
      exact Or.inl ⟨rfl, h.symm⟩
  | opened =>
      simp only [hs] at h
      by_cases hr : c.readyForProbe b now = true
      · simp only [hr, if_true, Prod.mk.injEq, true_and] at h
        exact Or.inr (Or.inl ⟨rfl, hr, h.symm⟩)
      · simp [hr] at h
  | halfOpen =>
      simp only [hs] at h
      by_cases hu : c.halfOpenProbesUsed < b.maxProbes
      · simp only [hu, if_true, Prod.mk.injEq, true_and] at h
        exact Or.inr (Or.inr ⟨rfl, hu, h.symm⟩)
      · simp [hu] at h

/-- A refused call changes nothing. -/
theorem allow_false {b : CircuitBreakerPolicy} {now : Nat} {c c' : ProviderCircuitState}
    (h : c.allowProviderCall b now = (false, c')) :
    c' = c ∧ ((c.state = .opened ∧ c.readyForProbe b now = false) ∨
      (c.state = .halfOpen ∧ b.maxProbes ≤ c.halfOpenProbesUsed)) := by
  unfold allowProviderCall at h
  cases hs : c.state with
  | closed => simp [hs] at h
  | opened =>
      simp only [hs] at h
      by_cases hr : c.readyForProbe b now = true
      · simp [hr] at h
      · simp only [hr, if_false, Bool.false_eq_true, Prod.mk.injEq, true_and] at h
        exact ⟨h.symm, Or.inl ⟨rfl, by simpa using hr⟩⟩
  | halfOpen =>
      simp only [hs] at h
      by_cases hu : c.halfOpenProbesUsed < b.maxProbes
      · simp [hu] at h
      · simp only [hu, if_false, Prod.mk.injEq, true_and] at h
        exact ⟨h.symm, Or.inr ⟨rfl, by omega⟩⟩

/-- A failure leaves the circuit closed, opens it at `now`, or finds it open. -/
theorem recordFailure_cases (b : CircuitBreakerPolicy) (now : Nat) (c : ProviderCircuitState) :
    (c.state = .closed ∧ (c.recordFailure b now).state = .closed ∧
      (c.recordFailure b now).openedAt = c.openedAt) ∨
    (c.state ≠ .opened ∧ (c.recordFailure b now).state = .opened ∧
      (c.recordFailure b now).openedAt = some now ∧
      (c.recordFailure b now).halfOpenProbesUsed = 0) ∨
    (c.state = .opened ∧ c.recordFailure b now = c) := by
  unfold recordFailure
  cases hs : c.state with
  | closed =>
      simp only
      by_cases hf : b.threshold ≤ min (c.consecutiveFailures + 1) (2 ^ 32 - 1)
      · rw [if_pos hf]
        exact .inr (.inl ⟨by decide, rfl, rfl, rfl⟩)
      · rw [if_neg hf]
        exact .inl ⟨trivial, rfl, rfl⟩
  | opened => simp
  | halfOpen => simp

theorem recordFailure_ne_halfOpen (b : CircuitBreakerPolicy) (now : Nat)
    (c : ProviderCircuitState) : (c.recordFailure b now).state ≠ .halfOpen := by
  rcases recordFailure_cases b now c with ⟨-, h, -⟩ | ⟨-, h, -⟩ | ⟨hs, h⟩
  · rw [h]; decide
  · rw [h]; decide
  · rw [h, hs]; decide

end ProviderCircuitState
end RustyGate
