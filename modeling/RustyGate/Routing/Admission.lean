/-
Admission control (`src/routing/admission.rs`).

A request takes a slot of the gateway and one of its model pool, and each provider it
tries takes a slot of that provider.  Only what has a limit is counted.  The slots
taken together form a guard, which gives them back once, when it is finished or
dropped.

The lock around the counters makes each operation one step, and nothing panics while
it is held, so the branches for a poisoned lock are never taken.  The three counters
are read uniformly through `AdmissionCounters.count`, and the rest of the development
uses only what the lemmas below say about that.
-/
import RustyGate.Collections.Tally
import RustyGate.Models.Chat

namespace RustyGate

inductive AdmissionRejectionReason where
  | globalInFlightLimit
  | poolInFlightLimit
  | providerInFlightLimit
  | maxEstimatedPromptTokens
  | maxEstimatedTotalTokens
  deriving DecidableEq, Repr

namespace AdmissionRejectionReason

def asStr : AdmissionRejectionReason → String
  | globalInFlightLimit => "global_in_flight_limit"
  | poolInFlightLimit => "pool_in_flight_limit"
  | providerInFlightLimit => "provider_in_flight_limit"
  | maxEstimatedPromptTokens => "max_estimated_prompt_tokens"
  | maxEstimatedTotalTokens => "max_estimated_total_tokens"

def publicMessage : AdmissionRejectionReason → String
  | globalInFlightLimit => "gateway global in-flight limit exceeded"
  | poolInFlightLimit => "model pool in-flight limit exceeded"
  | providerInFlightLimit => "provider in-flight limit exceeded"
  | maxEstimatedPromptTokens => "estimated prompt token limit exceeded"
  | maxEstimatedTotalTokens => "estimated total token limit exceeded"

end AdmissionRejectionReason

structure AdmissionRejection where
  reason : AdmissionRejectionReason
  retryAfterSeconds : UInt64
  deriving DecidableEq, Repr

def AdmissionRejection.intoAppError (r : AdmissionRejection) (requestId : Option Uuid) :
    AppError :=
  .admissionRejected r.reason.publicMessage requestId r.retryAfterSeconds

structure AdmissionLimits where
  maxGlobalInFlight : Option UInt64 := none
  maxEstimatedPromptTokens : Option UInt32 := none
  maxEstimatedTotalTokens : Option UInt32 := none
  retryAfterSeconds : UInt64 := 1
  poolMaxInFlight : String → Option UInt64 := fun _ => none
  providerMaxInFlight : String → Option UInt64 := fun _ => none

structure AdmissionCounters where
  globalInFlight : Nat := 0
  poolInFlight : Tally String := ∅
  providerInFlight : Tally String := ∅
  deriving DecidableEq

inductive AdmissionSlot where
  | global
  | pool (name : String)
  | provider (name : String)
  deriving DecidableEq, Repr

structure AdmissionGuard where
  slots : List AdmissionSlot
  active : Bool := true
  deriving DecidableEq, Repr

namespace AdmissionLimits

/-- `retry_after_seconds.max(1)` in a rejection. -/
def rejection (l : AdmissionLimits) (reason : AdmissionRejectionReason) : AdmissionRejection where
  reason := reason
  retryAfterSeconds := max l.retryAfterSeconds 1

def checkTokenBudget (l : AdmissionLimits) (request : ChatCompletionRequest) :
    Except AdmissionRejectionReason Unit :=
  let promptTokens := estimateTokensForMessages request.messages
  if l.maxEstimatedPromptTokens.any (· < promptTokens) then .error .maxEstimatedPromptTokens
  else
    let totalTokens :=
      min (promptTokens.toNat + (request.maxTokens.getD 0).toNat) (2 ^ 32 - 1)
    if l.maxEstimatedTotalTokens.any (·.toNat < totalTokens) then .error .maxEstimatedTotalTokens
    else .ok ()

/-- The limit on a slot.  A slot without one is never taken. -/
def of (l : AdmissionLimits) : AdmissionSlot → Option UInt64
  | .global => l.maxGlobalInFlight
  | .pool name => l.poolMaxInFlight name
  | .provider name => l.providerMaxInFlight name

end AdmissionLimits

namespace AdmissionCounters

def count (c : AdmissionCounters) : AdmissionSlot → Nat
  | .global => c.globalInFlight
  | .pool name => c.poolInFlight.count name
  | .provider name => c.providerInFlight.count name

/-- Take one slot.  The global counter saturates, and the others cannot get there. -/
def take (c : AdmissionCounters) : AdmissionSlot → AdmissionCounters
  | .global => { c with globalInFlight := min (c.globalInFlight + 1) (2 ^ 64 - 1) }
  | .pool name => { c with poolInFlight := c.poolInFlight.raise name 1 }
  | .provider name => { c with providerInFlight := c.providerInFlight.raise name 1 }

/-- Give one slot back. -/
def give (c : AdmissionCounters) : AdmissionSlot → AdmissionCounters
  | .global => { c with globalInFlight := c.globalInFlight - 1 }
  | .pool name => { c with poolInFlight := c.poolInFlight.lower name 1 }
  | .provider name => { c with providerInFlight := c.providerInFlight.lower name 1 }

/-- `limit.is_some_and(|limit| current >= limit)`. -/
def full (l : AdmissionLimits) (c : AdmissionCounters) (s : AdmissionSlot) : Bool :=
  (l.of s).any fun limit => limit.toNat ≤ c.count s

/-- The slots a request takes: the limited ones of the gateway and of its pool. -/
def requestSlots (l : AdmissionLimits) (poolName : Option String) : List AdmissionSlot :=
  (if l.maxGlobalInFlight.isSome then [.global] else []) ++
    match poolName with
    | none => []
    | some name => if (l.poolMaxInFlight name).isSome then [.pool name] else []

/-- Both limits are looked at before the first slot is taken. -/
def tryAcquireRequest (l : AdmissionLimits) (poolName : Option String)
    (c : AdmissionCounters) : Except AdmissionRejection AdmissionGuard × AdmissionCounters :=
  if full l c .global then (.error (l.rejection .globalInFlightLimit), c)
  else if poolName.any fun name => full l c (.pool name) then
    (.error (l.rejection .poolInFlightLimit), c)
  else
    (.ok { slots := requestSlots l poolName }, (requestSlots l poolName).foldl take c)

def tryAcquireProvider (l : AdmissionLimits) (name : String) (c : AdmissionCounters) :
    Except AdmissionRejection AdmissionGuard × AdmissionCounters :=
  match l.providerMaxInFlight name with
  | none => (.ok { slots := [] }, c)
  | some limit =>
      if limit.toNat ≤ c.count (.provider name) then
        (.error (l.rejection .providerInFlightLimit), c)
      else (.ok { slots := [.provider name] }, c.take (.provider name))

def release (slots : List AdmissionSlot) (c : AdmissionCounters) : AdmissionCounters :=
  slots.foldl give c

end AdmissionCounters

/-- `AdmissionGuard::finish`, which `drop` calls too. -/
def AdmissionGuard.finish (g : AdmissionGuard) (c : AdmissionCounters) :
    AdmissionGuard × AdmissionCounters :=
  if g.active then ({ g with active := false }, c.release g.slots) else (g, c)

/-! ## Counting slots -/

namespace AdmissionCounters

variable {l : AdmissionLimits} {c c' : AdmissionCounters} {g : AdmissionGuard}
  {poolName : Option String}

/-- Neither map keeps a zero entry. -/
def NoZero (c : AdmissionCounters) : Prop := c.poolInFlight.NoZero ∧ c.providerInFlight.NoZero

theorem noZero_empty : ({} : AdmissionCounters).NoZero :=
  ⟨Tally.noZero_empty, Tally.noZero_empty⟩

theorem NoZero.take (h : c.NoZero) (s : AdmissionSlot) :
    (c.take s).NoZero := by
  cases s with
  | global => exact h
  | pool name => exact ⟨h.1.raise name Nat.one_pos, h.2⟩
  | provider name => exact ⟨h.1, h.2.raise name Nat.one_pos⟩

theorem NoZero.give (h : c.NoZero) (s : AdmissionSlot) :
    (c.give s).NoZero := by
  cases s with
  | global => exact h
  | pool name => exact ⟨h.1.lower name 1, h.2⟩
  | provider name => exact ⟨h.1, h.2.lower name 1⟩

theorem NoZero.foldl_take (h : c.NoZero) (slots : List AdmissionSlot) :
    (slots.foldl AdmissionCounters.take c).NoZero := by
  induction slots generalizing c with
  | nil => exact h
  | cons s rest ih => exact ih (h.take s)

theorem NoZero.release (h : c.NoZero) (slots : List AdmissionSlot) :
    (c.release slots).NoZero := by
  induction slots generalizing c with
  | nil => exact h
  | cons s rest ih => exact ih (h.give s)

theorem NoZero.eq_empty (h : c.NoZero) (hz : ∀ s, c.count s = 0) :
    c = {} := by
  have hpool := h.1.eq_empty fun name => hz (.pool name)
  have hprovider := h.2.eq_empty fun name => hz (.provider name)
  have hglobal : c.globalInFlight = 0 := hz .global
  cases c
  simp_all

theorem count_give (c : AdmissionCounters) (s t : AdmissionSlot) :
    (c.give s).count t = c.count t - if s = t then 1 else 0 := by
  cases s <;> cases t <;> simp only [give, count, reduceCtorEq, if_false, if_true, Nat.sub_zero,
    AdmissionSlot.pool.injEq, AdmissionSlot.provider.injEq]
  · rename_i a b
    by_cases h : a = b
    · subst h
      simp
    · simp [h, Tally.count_lower_ne (Ne.symm h)]
  · rename_i a b
    by_cases h : a = b
    · subst h
      simp
    · simp [h, Tally.count_lower_ne (Ne.symm h)]

/-- A slot below its limit is counted exactly, since no limit exceeds `u64::MAX`. -/
theorem count_take {s : AdmissionSlot} {limit : UInt64} (hs : c.count s < limit.toNat)
    (t : AdmissionSlot) :
    (c.take s).count t = c.count t + if s = t then 1 else 0 := by
  have hmax : limit.toNat < 2 ^ 64 := limit.toNat_lt
  cases s <;> cases t <;> simp only [take, count, reduceCtorEq, if_false, if_true, Nat.add_zero,
    AdmissionSlot.pool.injEq, AdmissionSlot.provider.injEq]
  · have : c.globalInFlight < limit.toNat := hs
    omega
  · rename_i a b
    by_cases h : a = b
    · subst h
      simp
    · simp [h, Tally.count_raise_ne (Ne.symm h)]
  · rename_i a b
    by_cases h : a = b
    · subst h
      simp
    · simp [h, Tally.count_raise_ne (Ne.symm h)]

theorem count_release (slots : List AdmissionSlot) (c : AdmissionCounters) (t : AdmissionSlot) :
    (c.release slots).count t = c.count t - slots.count t := by
  induction slots generalizing c with
  | nil => rfl
  | cons s rest ih =>
      show ((c.give s).release rest).count t = _
      rw [ih, count_give, List.count_cons]
      by_cases h : s = t
      · simp only [h, if_true, beq_self_eq_true]
        omega
      · simp only [h, if_false, beq_iff_eq]
        omega

/-- Taking distinct slots that are all below their limits. -/
theorem count_foldl_take {slots : List AdmissionSlot} (hnodup : slots.Nodup)
    (hroom : ∀ s ∈ slots, ∃ limit, l.of s = some limit ∧ c.count s < limit.toNat)
    (t : AdmissionSlot) : (slots.foldl take c).count t = c.count t + slots.count t := by
  induction slots generalizing c with
  | nil => rfl
  | cons s rest ih =>
      obtain ⟨hfresh, hrest⟩ := List.nodup_cons.mp hnodup
      obtain ⟨limit, -, hlt⟩ := hroom s List.mem_cons_self
      rw [List.foldl_cons, ih hrest, count_take hlt, List.count_cons]
      · by_cases h : s = t
        · simp only [h, if_true, beq_self_eq_true]
          omega
        · simp only [h, if_false, beq_iff_eq]
          omega
      · intro u hu
        obtain ⟨limit', hlimit', hlt'⟩ := hroom u (List.mem_cons_of_mem _ hu)
        have hne : s ≠ u := fun e => hfresh (e ▸ hu)
        refine ⟨limit', hlimit', ?_⟩
        rw [count_take hlt, if_neg hne]
        exact hlt'

/-! ## What an acquire does -/

/-- A granted guard is active, its slots are distinct, each of them was below its limit,
and exactly these were counted. -/
structure Granted (l : AdmissionLimits) (c : AdmissionCounters) (g : AdmissionGuard)
    (c' : AdmissionCounters) : Prop where
  active : g.active = true
  nodup : g.slots.Nodup
  room : ∀ s ∈ g.slots, ∃ limit, l.of s = some limit ∧ c.count s < limit.toNat
  counted : ∀ s, c'.count s = c.count s + g.slots.count s
  noZero : c.NoZero → c'.NoZero

theorem not_full {s : AdmissionSlot} (h : full l c s = false) (hs : (l.of s).isSome = true) :
    ∃ limit, l.of s = some limit ∧ c.count s < limit.toNat := by
  obtain ⟨limit, hlimit⟩ := Option.isSome_iff_exists.mp hs
  refine ⟨limit, hlimit, ?_⟩
  simp only [full, hlimit, Option.any_some, decide_eq_false_iff_not] at h
  omega

theorem nodup_requestSlots (l : AdmissionLimits) (poolName : Option String) :
    (requestSlots l poolName).Nodup := by
  unfold requestSlots
  cases poolName with
  | none => split <;> simp
  | some name =>
      by_cases hg : l.maxGlobalInFlight.isSome = true <;>
        by_cases hp : (l.poolMaxInFlight name).isSome = true <;> simp [hg, hp]

theorem mem_requestSlots {s : AdmissionSlot} :
    s ∈ requestSlots l poolName ↔
      (l.of s).isSome = true ∧ (s = .global ∨ ∃ name, poolName = some name ∧ s = .pool name) := by
  unfold requestSlots
  rw [List.mem_append]
  cases s with
  | global => cases poolName <;> simp [AdmissionLimits.of]
  | pool name =>
      cases poolName with
      | none => simp [AdmissionLimits.of]
      | some other =>
          by_cases h : name = other
          · subst h
            simp [AdmissionLimits.of]
          · simp [AdmissionLimits.of, h]
  | provider name => cases poolName <;> simp

theorem tryAcquireRequest_ok (h : tryAcquireRequest l poolName c = (.ok g, c')) :
    Granted l c g c' := by
  unfold tryAcquireRequest at h
  split at h
  · cases h
  · rename_i hglobal
    split at h
    · cases h
    · rename_i hpool
      obtain ⟨rfl, rfl⟩ : { slots := requestSlots l poolName } = g ∧
          (requestSlots l poolName).foldl take c = c' := by
        simpa using h
      have hroom : ∀ s ∈ requestSlots l poolName,
          ∃ limit, l.of s = some limit ∧ c.count s < limit.toNat := by
        intro s hs
        obtain ⟨hsome, rfl | ⟨name, rfl, rfl⟩⟩ := mem_requestSlots.mp hs
        · exact not_full (by simpa using hglobal) hsome
        · exact not_full (by simpa using hpool) hsome
      exact ⟨rfl, nodup_requestSlots l poolName, hroom,
        count_foldl_take (nodup_requestSlots l poolName) hroom,
        fun hz => hz.foldl_take _⟩

theorem tryAcquireProvider_ok {name : String} (h : tryAcquireProvider l name c = (.ok g, c')) :
    Granted l c g c' := by
  unfold tryAcquireProvider at h
  split at h
  · obtain ⟨rfl, rfl⟩ : { slots := [] } = g ∧ c = c' := by simpa using h
    exact ⟨rfl, List.nodup_nil, by simp, by simp, id⟩
  · rename_i limit hlimit
    split at h
    · cases h
    · rename_i hlt
      obtain ⟨rfl, rfl⟩ : { slots := [.provider name] } = g ∧ c.take (.provider name) = c' := by
        simpa using h
      have hroom : c.count (.provider name) < limit.toNat := by omega
      refine ⟨rfl, by simp, ?_, ?_, fun hz => hz.take _⟩
      · intro s hs
        rw [List.mem_singleton.mp hs]
        exact ⟨limit, hlimit, hroom⟩
      · intro s
        rw [count_take hroom]
        simp [List.count_cons]

theorem tryAcquireRequest_slots (h : tryAcquireRequest l poolName c = (.ok g, c')) :
    g.slots = requestSlots l poolName := by
  unfold tryAcquireRequest at h
  split at h
  · cases h
  · split at h
    · cases h
    · cases h
      rfl

/-- The guard of a provider holds the provider's slot exactly when the provider has a
limit. -/
theorem tryAcquireProvider_slots {name : String} (h : tryAcquireProvider l name c = (.ok g, c')) :
    g.slots = if (l.providerMaxInFlight name).isSome then [.provider name] else [] := by
  unfold tryAcquireProvider at h
  split at h
  · rename_i hnone
    obtain ⟨rfl, -⟩ : { slots := [] } = g ∧ c = c' := by simpa using h
    simp [hnone]
  · rename_i limit hlimit
    split at h
    · cases h
    · obtain ⟨rfl, -⟩ : { slots := [.provider name] } = g ∧ c.take (.provider name) = c' := by
        simpa using h
      simp [hlimit]

/-- A rejected request takes nothing: a full pool does not cost a global slot. -/
theorem tryAcquireRequest_error {r : AdmissionRejection}
    (h : tryAcquireRequest l poolName c = (.error r, c')) : c' = c := by
  unfold tryAcquireRequest at h
  split at h
  · exact (Prod.mk.inj h).2.symm
  · split at h
    · exact (Prod.mk.inj h).2.symm
    · cases h

theorem tryAcquireProvider_error {name : String} {r : AdmissionRejection}
    (h : tryAcquireProvider l name c = (.error r, c')) : c' = c := by
  unfold tryAcquireProvider at h
  split at h
  · cases h
  · split at h
    · exact (Prod.mk.inj h).2.symm
    · cases h

end AdmissionCounters
end RustyGate
