/-
The load of the providers (`ProviderInFlightGuard` in `src/telemetry/metrics.rs`).

A guard raises the gauges of its provider when it is made and lowers them when it is finished
or dropped, whichever comes first.  Both gauges are sums over the active guards, one of ones
and one of the units that each guard has brought (`held`), and a guard that is done takes
away exactly its own part of both.  As every part is positive, an entry is there exactly as
long as an active guard is.  A guard is active from when it is made to when it is first
finished or dropped (`active_iff_inFlight`).
-/
import RustyGate.Telemetry.Counters
import Mathlib.Algebra.BigOperators.Group.List.Basic
import Mathlib.Data.List.Perm.Basic

namespace RustyGate

structure ProviderInFlightGuard where
  providerName : String
  queuePressureUnits : Nat
  active : Bool
  deriving DecidableEq, Repr

namespace ProviderInFlightGuard

def new (metrics : MetricsRegistry) (providerName : String) (loadEstimate : ProviderLoadEstimate) :
    MetricsRegistry × ProviderInFlightGuard :=
  (metrics.record (.beginProviderRequest providerName loadEstimate.queuePressureUnits),
    ⟨providerName, loadEstimate.queuePressureUnits, true⟩)

/-- `finish`, which `drop` calls, too. -/
def finish (guard : ProviderInFlightGuard) (metrics : MetricsRegistry) :
    MetricsRegistry × ProviderInFlightGuard :=
  if guard.active then
    (metrics.record (.endProviderRequest guard.providerName guard.queuePressureUnits),
      { guard with active := false })
  else (metrics, guard)

end ProviderInFlightGuard

/-- The update changes the gauges of a provider. -/
def MetricsUpdate.isGauge : MetricsUpdate → Bool
  | .beginProviderRequest _ _ => true
  | .endProviderRequest _ _ => true
  | _ => false

/-- The registry, and the guards in the order in which they were made.  One that was dropped
keeps its number, and is finished. -/
structure GuardedMetrics where
  metrics : MetricsRegistry := {}
  guards : List ProviderInFlightGuard := []

/-- What can happen to the guards, named by their number, and to the registry. -/
inductive GuardEvent where
  | create (providerName : String) (loadEstimate : ProviderLoadEstimate)
  | finish (number : Nat)
  | drop (number : Nat)
  | record (update : { update : MetricsUpdate // update.isGauge = false })

namespace GuardedMetrics

def finishAt (s : GuardedMetrics) (number : Nat) : GuardedMetrics :=
  match s.guards[number]? with
  | none => s
  | some guard => ⟨(guard.finish s.metrics).1, s.guards.set number (guard.finish s.metrics).2⟩

def step (s : GuardedMetrics) : GuardEvent → GuardedMetrics
  | .create providerName loadEstimate =>
      let (metrics, guard) := ProviderInFlightGuard.new s.metrics providerName loadEstimate
      ⟨metrics, s.guards ++ [guard]⟩
  | .finish number | .drop number => s.finishAt number
  | .record update => { s with metrics := s.metrics.record update.1 }

/-- What a new registry has become after the events. -/
def reached (events : List GuardEvent) : GuardedMetrics := events.foldl step {}

/-- The number of guards that the events make. -/
def created (events : List GuardEvent) : Nat :=
  events.countP fun
    | .create _ _ => true
    | _ => false

/-- Guard `number` has been made, and neither finished nor dropped since. -/
def InFlight (events : List GuardEvent) (number : Nat) (providerName : String) (units : Nat) :
    Prop :=
  ∃ before loadEstimate after, events = before ++ .create providerName loadEstimate :: after ∧
    created before = number ∧ loadEstimate.queuePressureUnits = units ∧
    .finish number ∉ after ∧ .drop number ∉ after

end GuardedMetrics

/-! ## Sums over the active guards -/

/-- The active guards of a provider. -/
def activeAt (provider : String) (guards : List ProviderInFlightGuard) :
    List ProviderInFlightGuard :=
  guards.filter fun guard => guard.active && guard.providerName == provider

/-- The sum of the parts of the active guards of a provider. -/
def held (part : ProviderInFlightGuard → Nat) (provider : String)
    (guards : List ProviderInFlightGuard) : Nat :=
  ((activeAt provider guards).map part).sum

variable {part : ProviderInFlightGuard → Nat} {provider : String}
  {guards : List ProviderInFlightGuard} {guard : ProviderInFlightGuard}

theorem held_one : held (fun _ => 1) provider guards = (activeAt provider guards).length := by
  rw [held, List.map_const', List.sum_replicate_nat, Nat.mul_one]

theorem held_perm {guards' : List ProviderInFlightGuard} (h : guards.Perm guards') :
    held part provider guards = held part provider guards' :=
  ((h.filter _).map part).sum_eq

theorem held_cons :
    held part provider (guard :: guards) =
      (if guard.active = true ∧ guard.providerName = provider then part guard else 0) +
        held part provider guards := by
  unfold held activeAt
  by_cases h : guard.active = true ∧ guard.providerName = provider
  · rw [List.filter_cons_of_pos (by simpa using h), List.map_cons, List.sum_cons, if_pos h]
  · rw [List.filter_cons_of_neg (by simpa using h), if_neg h, Nat.zero_add]

theorem held_cons_inactive (h : guard.active = false) :
    held part provider (guard :: guards) = held part provider guards := by
  rw [held_cons, if_neg (fun hactive => Bool.false_ne_true (h.symm.trans hactive.1)), Nat.zero_add]

/-! ## One gauge -/

/-- A tally that counts the parts of the active guards, without entries for nothing. -/
structure Gauges (part : ProviderInFlightGuard → Nat) (guards : List ProviderInFlightGuard)
    (tally : Tally String) : Prop where
  count_eq : ∀ provider, tally.count provider = held part provider guards
  noZero : tally.NoZero

namespace Gauges

variable {tally : Tally String}

theorem perm (h : Gauges part guards tally) {guards' : List ProviderInFlightGuard}
    (hperm : guards.Perm guards') : Gauges part guards' tally where
  count_eq := fun provider => (h.count_eq provider).trans (held_perm hperm)
  noZero := h.noZero

theorem raise (h : Gauges part guards tally) (hactive : guard.active = true)
    (hpart : 0 < part guard) :
    Gauges part (guard :: guards) (tally.raise guard.providerName (part guard)) where
  count_eq := by
    intro provider
    rw [held_cons, Tally.count_raise, h.count_eq, Nat.add_comm]
    simp only [hactive, true_and]
  noZero := h.noZero.raise _ hpart

theorem lower (h : Gauges part (guard :: guards) tally) (hactive : guard.active = true) :
    Gauges part guards (tally.lower guard.providerName (part guard)) where
  count_eq := by
    intro provider
    have hcount := h.count_eq provider
    rw [held_cons] at hcount
    by_cases hp : provider = guard.providerName
    · subst hp
      rw [if_pos ⟨hactive, rfl⟩] at hcount
      rw [Tally.count_lower_self, hcount, Nat.add_sub_cancel_left]
    · rw [if_neg (fun hnot => hp hnot.2.symm), Nat.zero_add] at hcount
      rw [Tally.count_lower_ne hp, hcount]
  noZero := h.noZero.lower _ _

end Gauges

/-! ## Runs -/

theorem ProviderLoadEstimate.queuePressureUnits_pos (loadEstimate : ProviderLoadEstimate) :
    0 < loadEstimate.queuePressureUnits :=
  Nat.lt_of_lt_of_le Nat.one_pos (Nat.le_add_right 1 _)

namespace GuardedMetrics

/-- Both gauges are those of the guards, and every guard has brought some units. -/
structure Conserved (s : GuardedMetrics) : Prop where
  inFlight : Gauges (fun _ => 1) s.guards s.metrics.inFlightRequestsByProvider
  pressure : Gauges (·.queuePressureUnits) s.guards s.metrics.providerQueuePressureUnits
  units_pos : ∀ guard ∈ s.guards, 0 < guard.queuePressureUnits

theorem Conserved.perm {s : GuardedMetrics} (h : s.Conserved)
    {guards' : List ProviderInFlightGuard} (hperm : s.guards.Perm guards') :
    (⟨s.metrics, guards'⟩ : GuardedMetrics).Conserved where
  inFlight := h.inFlight.perm hperm
  pressure := h.pressure.perm hperm
  units_pos := fun guard hguard => h.units_pos guard (hperm.mem_iff.mpr hguard)

theorem conserved_new : ({} : GuardedMetrics).Conserved where
  inFlight := ⟨fun _ => rfl, Tally.noZero_empty⟩
  pressure := ⟨fun _ => rfl, Tally.noZero_empty⟩
  units_pos := fun _ hguard => nomatch hguard

/-- A guard that is finished takes its parts away, and those of the others stay. -/
theorem Conserved.finish {metrics : MetricsRegistry}
    (h : (⟨metrics, guard :: guards⟩ : GuardedMetrics).Conserved) :
    (⟨(guard.finish metrics).1, (guard.finish metrics).2 :: guards⟩ :
      GuardedMetrics).Conserved := by
  unfold ProviderInFlightGuard.finish
  cases hactive : guard.active with
  | true =>
      rw [if_pos rfl]
      have hcounted := h.inFlight.lower hactive
      have hpressed := h.pressure.lower hactive
      refine ⟨?_, ?_, ?_⟩
      · exact ⟨fun provider => (hcounted.count_eq provider).trans (held_cons_inactive rfl).symm,
          hcounted.noZero⟩
      · exact ⟨fun provider => (hpressed.count_eq provider).trans (held_cons_inactive rfl).symm,
          hpressed.noZero⟩
      · intro other hother
        rcases List.mem_cons.mp hother with rfl | hother
        · exact h.units_pos guard List.mem_cons_self
        · exact h.units_pos other (List.mem_cons_of_mem guard hother)
  | false => exact h

theorem Conserved.finishAt {s : GuardedMetrics} (h : s.Conserved) (number : Nat) :
    (s.finishAt number).Conserved := by
  unfold GuardedMetrics.finishAt
  cases hnumber : s.guards[number]? with
  | none => exact h
  | some guard =>
      obtain ⟨hlt, rfl⟩ := List.getElem?_eq_some_iff.mp hnumber
      have hfront := h.perm (List.getElem_cons_eraseIdx_perm hlt).symm
      exact hfront.finish.perm (List.set_perm_cons_eraseIdx hlt _).symm

/-- Recordings of other things do not touch the gauges. -/
theorem record_gauges (m : MetricsRegistry) {update : MetricsUpdate} (h : update.isGauge = false) :
    (m.record update).inFlightRequestsByProvider = m.inFlightRequestsByProvider ∧
      (m.record update).providerQueuePressureUnits = m.providerQueuePressureUnits := by
  rw [MetricsRegistry.record_frame (·.inFlightRequestsByProvider)
      (fun m a => by rw [MetricsRegistry.recordProviderAttempt_eq]),
    MetricsRegistry.record_frame (·.providerQueuePressureUnits)
      (fun m a => by rw [MetricsRegistry.recordProviderAttempt_eq])]
  cases update with
  | beginProviderRequest provider units => cases h
  | endProviderRequest provider units => cases h
  | recordChatFailure latencyMs attempts errorCategory =>
      cases errorCategory <;> exact ⟨rfl, rfl⟩
  | _ => exact ⟨rfl, rfl⟩

theorem Conserved.step {s : GuardedMetrics} (h : s.Conserved) (event : GuardEvent) :
    (s.step event).Conserved := by
  cases event with
  | create providerName loadEstimate =>
      have hpos := loadEstimate.queuePressureUnits_pos
      have hmade : (⟨s.metrics.record (.beginProviderRequest providerName
          loadEstimate.queuePressureUnits),
          ⟨providerName, loadEstimate.queuePressureUnits, true⟩ :: s.guards⟩ :
          GuardedMetrics).Conserved := by
        refine ⟨h.inFlight.raise rfl Nat.one_pos, h.pressure.raise rfl hpos, ?_⟩
        intro guard hguard
        rcases List.mem_cons.mp hguard with rfl | hguard
        · exact hpos
        · exact h.units_pos guard hguard
      exact hmade.perm (List.perm_append_singleton _ _).symm
  | finish number => exact h.finishAt number
  | drop number => exact h.finishAt number
  | record update =>
      obtain ⟨hinFlight, hpressure⟩ := record_gauges s.metrics update.2
      refine ⟨?_, ?_, h.units_pos⟩
      · simp only [GuardedMetrics.step]
        rw [hinFlight]
        exact h.inFlight
      · simp only [GuardedMetrics.step]
        rw [hpressure]
        exact h.pressure

theorem Conserved.foldl {s : GuardedMetrics} (h : s.Conserved) (events : List GuardEvent) :
    (events.foldl GuardedMetrics.step s).Conserved := by
  induction events generalizing s with
  | nil => exact h
  | cons event rest ih => exact ih (h.step event)

theorem conserved_reached (events : List GuardEvent) : (reached events).Conserved :=
  conserved_new.foldl events

/-! ## The active guards -/

section Active

variable {events : List GuardEvent} {event : GuardEvent} {number units : Nat}

theorem reached_concat : reached (events ++ [event]) = (reached events).step event :=
  List.foldl_concat ..

theorem getElem?_finishAt (s : GuardedMetrics) (finished : Nat) :
    (s.finishAt finished).guards[number]? = some ⟨provider, units, true⟩ ↔
      s.guards[number]? = some ⟨provider, units, true⟩ ∧ finished ≠ number := by
  unfold finishAt
  cases hfinished : s.guards[finished]? with
  | none => grind
  | some guard => grind [ProviderInFlightGuard.finish]

theorem length_finishAt (s : GuardedMetrics) (finished : Nat) :
    (s.finishAt finished).guards.length = s.guards.length := by
  unfold finishAt
  split
  · rfl
  · exact List.length_set

theorem length_guards (events : List GuardEvent) :
    (reached events).guards.length = created events := by
  induction events using List.reverseRecOn with
  | nil => rfl
  | append_singleton events event ih =>
      rw [reached_concat, created, List.countP_append]
      cases event with
      | create providerName loadEstimate =>
          rw [step, List.length_append, ih]
          rfl
      | finish finished => exact (length_finishAt _ _).trans ih
      | drop dropped => exact (length_finishAt _ _).trans ih
      | record update => exact ih

theorem inFlight_concat :
    InFlight (events ++ [event]) number provider units ↔
      (InFlight events number provider units ∧ event ≠ .finish number ∧ event ≠ .drop number) ∨
        ∃ loadEstimate, event = .create provider loadEstimate ∧ created events = number ∧
          loadEstimate.queuePressureUnits = units := by
  constructor
  · rintro ⟨before, loadEstimate, after, hevents, hcreated, hunits, hfinish, hdrop⟩
    rcases after.eq_nil_or_concat' with rfl | ⟨after, last, rfl⟩
    · obtain ⟨rfl, hevent⟩ := List.append_inj' hevents rfl
      cases hevent
      exact .inr ⟨loadEstimate, rfl, hcreated, hunits⟩
    · rw [← List.cons_append, ← List.append_assoc] at hevents
      obtain ⟨rfl, hevent⟩ := List.append_inj' hevents rfl
      cases hevent
      rw [List.mem_append, List.mem_singleton, not_or] at hfinish hdrop
      exact .inl ⟨⟨before, loadEstimate, after, rfl, hcreated, hunits, hfinish.1, hdrop.1⟩,
        Ne.symm hfinish.2, Ne.symm hdrop.2⟩
  · rintro (⟨⟨before, loadEstimate, after, rfl, hcreated, hunits, hfinish, hdrop⟩, hne⟩ |
      ⟨loadEstimate, rfl, hcreated, hunits⟩)
    · refine ⟨before, loadEstimate, after ++ [event], ?_, hcreated, hunits, ?_, ?_⟩
      · rw [List.append_assoc, List.cons_append]
      · rw [List.mem_append, List.mem_singleton, not_or]
        exact ⟨hfinish, Ne.symm hne.1⟩
      · rw [List.mem_append, List.mem_singleton, not_or]
        exact ⟨hdrop, Ne.symm hne.2⟩
    · exact ⟨events, loadEstimate, [], rfl, hcreated, hunits, List.not_mem_nil, List.not_mem_nil⟩

/-- A guard is active from when it is made to when it is first finished or dropped. -/
theorem active_iff_inFlight (events : List GuardEvent) :
    (reached events).guards[number]? = some ⟨provider, units, true⟩ ↔
      InFlight events number provider units := by
  induction events using List.reverseRecOn with
  | nil =>
      refine iff_of_false nofun ?_
      rintro ⟨before, loadEstimate, after, hevents, -⟩
      exact absurd hevents (by simp)
  | append_singleton events event ih =>
      rw [inFlight_concat, ← ih, reached_concat, ← length_guards]
      cases event with
      | create providerName loadEstimate => grind [step, ProviderInFlightGuard.new]
      | finish finished =>
          rw [step, getElem?_finishAt]
          simp
      | drop dropped =>
          rw [step, getElem?_finishAt]
          simp
      | record update => simp [step]

end Active

end GuardedMetrics

/-- Every active guard has a part. -/
theorem length_activeAt_le_held (hpart : ∀ guard ∈ guards, 0 < part guard) :
    (activeAt provider guards).length ≤ held part provider guards := by
  have hle := List.length_le_sum_of_one_le ((activeAt provider guards).map part) (by
    intro n hn
    obtain ⟨guard, hguard, rfl⟩ := List.mem_map.mp hn
    exact hpart guard (List.mem_of_mem_filter hguard))
  rw [List.length_map] at hle
  exact hle

/-- With positive parts there is an entry exactly if there is an active guard. -/
theorem Gauges.lookup_isSome {tally : Tally String} (h : Gauges part guards tally)
    (hpart : ∀ guard ∈ guards, 0 < part guard) (provider : String) :
    (tally.lookup provider).isSome = true ↔ activeAt provider guards ≠ [] := by
  rw [h.noZero.lookup_isSome, h.count_eq, ← List.length_pos_iff]
  constructor
  · intro hheld
    by_contra hnone
    have hempty : activeAt provider guards = [] :=
      List.eq_nil_of_length_eq_zero (by omega)
    rw [held, hempty] at hheld
    exact absurd hheld (by simp)
  · intro hactive
    exact Nat.lt_of_lt_of_le hactive (length_activeAt_le_held hpart)

/-- Whatever is created, finished and dropped in whatever order: a guard is active from when it
is made to when it is first finished or dropped, the two gauges of a provider are the number of
its active guards and the sum of their units, and both have an entry exactly if there is an
active guard. -/
theorem GuardedMetrics.gauges_conserved (events : List GuardEvent) (provider : String) :
    (∀ number units, (reached events).guards[number]? = some ⟨provider, units, true⟩ ↔
      InFlight events number provider units) ∧
    (reached events).metrics.inFlightRequestsByProvider.count provider =
        (activeAt provider (reached events).guards).length ∧
      (reached events).metrics.providerQueuePressureUnits.count provider =
        ((activeAt provider (reached events).guards).map (·.queuePressureUnits)).sum ∧
      (((reached events).metrics.inFlightRequestsByProvider.lookup provider).isSome = true ↔
        activeAt provider (reached events).guards ≠ []) ∧
      (((reached events).metrics.providerQueuePressureUnits.lookup provider).isSome = true ↔
        activeAt provider (reached events).guards ≠ []) ∧
      (reached events).metrics.inFlightRequestsByProvider.count provider ≤
        (reached events).metrics.providerQueuePressureUnits.count provider := by
  have h := conserved_reached events
  have hcount := h.inFlight.count_eq provider
  rw [held_one] at hcount
  have hpressure := h.pressure.count_eq provider
  refine ⟨fun _ _ => active_iff_inFlight events, hcount, hpressure,
    h.inFlight.lookup_isSome (fun _ _ => Nat.one_pos) provider,
    h.pressure.lookup_isSome h.units_pos provider, ?_⟩
  rw [hcount, hpressure]
  exact length_activeAt_le_held h.units_pos

end RustyGate
