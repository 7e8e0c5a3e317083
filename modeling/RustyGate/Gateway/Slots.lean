/-
Conservation of admission slots.

`Conserved` says of a world that its counters are exactly what the guards in its table
hold.  Every operation of a request keeps it, and so does everything else that can
happen, because an acquire counts the slots of the guard it hands out and a guard gives
its slots back once.

`Phase.Backed` is the part of the table that concerns one request.  It is kept by whatever
the others do, since nobody drops a guard of somebody else.
-/
import RustyGate.Gateway.Setting

namespace RustyGate

open Effect

namespace AdmissionGuard

@[simp] theorem active_finish (g : AdmissionGuard) (c : AdmissionCounters) :
    (g.finish c).1.active = false := by
  unfold finish
  split
  · rfl
  · rename_i h
    simpa using h

@[simp] theorem slots_finish (g : AdmissionGuard) (c : AdmissionCounters) :
    (g.finish c).1.slots = g.slots := by
  unfold finish
  split <;> rfl

theorem noZero_finish {g : AdmissionGuard} {c : AdmissionCounters} (h : c.NoZero) :
    (g.finish c).2.NoZero := by
  unfold finish
  split
  · exact h.release g.slots
  · exact h

/-- A guard gives back what it holds. -/
theorem count_finish {g : AdmissionGuard} (hnodup : g.slots.Nodup) (c : AdmissionCounters)
    (s : AdmissionSlot) :
    (g.finish c).2.count s = c.count s - if g.active && g.slots.contains s then 1 else 0 := by
  unfold finish
  by_cases hactive : g.active = true
  · rw [if_pos hactive, AdmissionCounters.count_release, hnodup.count, hactive]
    simp
  · rw [if_neg hactive]
    simp [hactive]

end AdmissionGuard

/-- The guard is live and unfinished, and `s` is one of its slots. -/
def HeldGuard.holds (s : AdmissionSlot) (held : HeldGuard) : Bool :=
  held.alive && (held.guard.active && held.guard.slots.contains s)

variable {o : Op} {a : Ans o} {g : GuardId}

namespace World

/-- How many guards hold `s`. -/
def holders (w : World) (s : AdmissionSlot) : Nat := w.guards.countP (HeldGuard.holds s)

/-- The invariant.  `l` are the limits the gateway was started with. -/
structure Conserved (l : AdmissionLimits) (w : World) : Prop where
  limits_eq : w.limits = l
  counts : ∀ s, w.counters.count s = w.holders s
  capped : ∀ s limit, l.of s = some limit → w.counters.count s ≤ limit.toNat
  noZero : w.counters.NoZero
  distinct : ∀ held ∈ w.guards, held.guard.slots.Nodup
  finished : ∀ held ∈ w.guards, held.alive = false → held.guard.active = false

variable {l : AdmissionLimits} {w : World}

theorem Conserved.of_empty (hlimits : w.limits = l) (hcounters : w.counters = {})
    (hguards : w.guards = []) : w.Conserved l where
  limits_eq := hlimits
  counts := by
    intro s
    rw [hcounters, holders, hguards]
    cases s <;> rfl
  capped := by
    intro s limit _
    have hzero : w.counters.count s = 0 := by
      rw [hcounters]
      cases s <;> rfl
    omega
  noZero := hcounters ▸ AdmissionCounters.noZero_empty
  distinct := by simp [hguards]
  finished := by simp [hguards]

/-! ## Acquiring -/

/-- What an acquire may answer. -/
def Acquires (w : World)
    (answer : Except AdmissionRejection AdmissionGuard × AdmissionCounters) : Prop :=
  match answer with
  | (.ok guard, counters) => AdmissionCounters.Granted w.limits w.counters guard counters
  | (.error _, counters) => counters = w.counters

theorem acquires_request (w : World) (poolName : Option String) :
    w.Acquires (w.counters.tryAcquireRequest w.limits poolName) := by
  cases hanswer : w.counters.tryAcquireRequest w.limits poolName with
  | mk result counters =>
      cases result with
      | ok guard => exact AdmissionCounters.tryAcquireRequest_ok hanswer
      | error rejection => exact AdmissionCounters.tryAcquireRequest_error hanswer

theorem acquires_provider (w : World) (p : String) :
    w.Acquires (w.counters.tryAcquireProvider w.limits p) := by
  cases hanswer : w.counters.tryAcquireProvider w.limits p with
  | mk result counters =>
      cases result with
      | ok guard => exact AdmissionCounters.tryAcquireProvider_ok hanswer
      | error rejection => exact AdmissionCounters.tryAcquireProvider_error hanswer

variable {answer : Except AdmissionRejection AdmissionGuard × AdmissionCounters}

theorem Conserved.acquired (h : w.Conserved l) (owner : Option Nat) (hanswer : w.Acquires answer) :
    (w.acquired owner answer).2.Conserved l := by
  obtain ⟨result, counters⟩ := answer
  cases result with
  | error rejection =>
      obtain rfl : counters = w.counters := hanswer
      exact h
  | ok guard =>
      have hgranted : AdmissionCounters.Granted w.limits w.counters guard counters := hanswer
      refine ⟨h.limits_eq, fun s => ?_, fun s limit hlimit => ?_, hgranted.noZero h.noZero, ?_, ?_⟩
      · -- The new guard holds each of its slots once.
        show counters.count s = (w.guards ++ [_]).countP (HeldGuard.holds s)
        rw [hgranted.counted, h.counts, List.countP_append, List.countP_singleton,
          hgranted.nodup.count, holders]
        simp [HeldGuard.holds, hgranted.active]
      · show counters.count s ≤ limit.toNat
        have hcap := h.capped s limit hlimit
        rw [hgranted.counted, hgranted.nodup.count]
        by_cases hs : s ∈ guard.slots
        · obtain ⟨limit', hlimit', hroom⟩ := hgranted.room s hs
          rw [h.limits_eq, hlimit] at hlimit'
          obtain rfl := Option.some.inj hlimit'
          rw [if_pos hs]
          omega
        · rw [if_neg hs]
          omega
      · intro held hheld
        rcases List.mem_append.mp hheld with hold | hnew
        · exact h.distinct held hold
        · rw [List.mem_singleton.mp hnew]
          exact hgranted.nodup
      · intro held hheld hdead
        rcases List.mem_append.mp hheld with hold | hnew
        · exact h.finished held hold hdead
        · rw [List.mem_singleton.mp hnew] at hdead
          cases hdead

/-! ## Releasing -/

/-- Finishing a guard, and dropping it, gives back what it holds and nothing else. -/
theorem Conserved.finish (h : w.Conserved l) (g : GuardId) (alive : Bool) :
    (w.finish g alive).Conserved l := by
  unfold World.finish
  cases hg : w.guards[g]? with
  | none => exact h
  | some held =>
      obtain ⟨hlt, hget⟩ := List.getElem?_eq_some_iff.mp hg
      have hmem : held ∈ w.guards := List.mem_of_getElem? hg
      have hnodup := h.distinct held hmem
      -- A guard that is not alive has been finished, so `alive` adds nothing.
      have hholds : ∀ s, held.holds s = (held.guard.active && held.guard.slots.contains s) := by
        intro s
        cases halive : held.alive with
        | true => simp [HeldGuard.holds, halive]
        | false => simp [HeldGuard.holds, halive, h.finished held hmem halive]
      have hcount : ∀ s, (held.guard.finish w.counters).2.count s =
          w.counters.count s - if held.holds s then 1 else 0 := by
        intro s
        rw [AdmissionGuard.count_finish hnodup, hholds]
      refine ⟨h.limits_eq, fun s => ?_, fun s limit hlimit => ?_,
        AdmissionGuard.noZero_finish h.noZero, ?_, ?_⟩
      · show (held.guard.finish w.counters).2.count s = (w.guards.set g _).countP _
        rw [hcount, h.counts, holders, List.countP_set hlt, hget]
        simp [HeldGuard.holds]
      · show (held.guard.finish w.counters).2.count s ≤ limit.toNat
        have hcap := h.capped s limit hlimit
        rw [hcount]
        omega
      · intro other hother
        rcases List.mem_or_eq_of_mem_set hother with hold | rfl
        · exact h.distinct other hold
        · show (held.guard.finish w.counters).1.slots.Nodup
          rw [AdmissionGuard.slots_finish]
          exact hnodup
      · intro other hother hdead
        rcases List.mem_or_eq_of_mem_set hother with hold | rfl
        · exact h.finished other hold hdead
        · exact AdmissionGuard.active_finish ..

theorem Conserved.drop (h : w.Conserved l) (g : GuardId) : (w.drop g).Conserved l :=
  h.finish g false

theorem Conserved.dropOwned (h : w.Conserved l) (i : Nat) : (w.dropOwned i).Conserved l := by
  unfold World.dropOwned
  generalize List.range w.guards.length = gs
  induction gs generalizing w with
  | nil => exact h
  | cons g gs ih =>
      rw [List.foldl_cons]
      split
      · exact ih (h.drop g)
      · exact ih h

/-- Who owns a guard is of no concern to the counters. -/
theorem Conserved.disown (h : w.Conserved l) (i : Nat) : (w.disown i).Conserved l := by
  have hmem : ∀ held ∈ (w.disown i).guards, ∃ old ∈ w.guards,
      held.guard = old.guard ∧ held.alive = old.alive := by
    intro held hheld
    obtain ⟨old, hold, rfl⟩ := List.mem_map.mp hheld
    refine ⟨old, hold, ?_⟩
    split <;> exact ⟨rfl, rfl⟩
  refine ⟨h.limits_eq, fun s => ?_, h.capped, h.noZero, fun held hheld => ?_,
    fun held hheld hdead => ?_⟩
  · rw [show (w.disown i).counters.count s = w.counters.count s from rfl, h.counts, holders,
      holders, World.disown, List.countP_map]
    refine List.countP_congr fun held _ => ?_
    simp only [Function.comp_apply]
    split <;> rfl
  · obtain ⟨old, hold, hguard, -⟩ := hmem held hheld
    exact hguard ▸ h.distinct old hold
  · obtain ⟨old, hold, hguard, halive⟩ := hmem held hheld
    exact hguard ▸ h.finished old hold (halive ▸ hdead)

/-! ## Every step -/

theorem Conserved.ambient {w' : World} (h : w.Conserved l) (hw : w.Ambient w') :
    w'.Conserved l := by
  cases hw with
  | tick ht => exact ⟨h.limits_eq, h.counts, h.capped, h.noZero, h.distinct, h.finished⟩
  | acquireRequest poolName => exact h.acquired none (w.acquires_request poolName)
  | acquireProvider p => exact h.acquired none (w.acquires_provider p)
  | @finish g held hg howner halive => exact h.finish g true
  | @drop g held hg howner halive => exact h.drop g

/-- What an operation of request `i` does to the slots: nothing, an acquire for the request,
or the drop of a guard. -/
theorem exec_slots {i : Nat} {w' : World} (hw : w.exec i o a w') :
    (w'.limits = w.limits ∧ w'.counters = w.counters ∧ w'.guards = w.guards) ∨
      (∃ answer, w.Acquires answer ∧ w' = (w.acquired (some i) answer).2) ∨
      ∃ g, o = .dropAdmissionGuard g ∧ w' = w.drop g := by
  cases o with
  | allowProviderCall index p =>
      obtain ⟨now, -, hnow⟩ := hw
      obtain rfl : (w.allowProviderCall now p).2 = w' := congrArg Prod.snd hnow
      exact .inl ⟨rfl, rfl, rfl⟩
  | recordSuccess index p =>
      obtain rfl : w' = w.recordSuccess p := hw
      exact .inl ⟨rfl, rfl, rfl⟩
  | recordFailure index p =>
      obtain ⟨now, -, rfl⟩ := hw
      exact .inl ⟨rfl, rfl, rfl⟩
  | tryAcquireRequest poolName =>
      exact .inr (.inl ⟨_, w.acquires_request poolName, (congrArg Prod.snd hw).symm⟩)
  | tryAcquireProvider index p =>
      exact .inr (.inl ⟨_, w.acquires_provider p, (congrArg Prod.snd hw).symm⟩)
  | dropAdmissionGuard g => exact .inr (.inr ⟨g, rfl, hw⟩)
  | _ =>
      obtain rfl : w' = w := hw
      exact .inl ⟨rfl, rfl, rfl⟩

theorem Conserved.exec {i : Nat} {w' : World} (h : w.Conserved l) (hw : w.exec i o a w') :
    w'.Conserved l := by
  rcases exec_slots hw with ⟨hlimits, hcounters, hguards⟩ | ⟨answer, hanswer, rfl⟩ | ⟨g, -, rfl⟩
  · refine ⟨hlimits.trans h.limits_eq, fun s => ?_, ?_, ?_, ?_, ?_⟩
    · unfold holders
      rw [hcounters, hguards]
      exact h.counts s
    · rw [hcounters]
      exact h.capped
    · rw [hcounters]
      exact h.noZero
    · rw [hguards]
      exact h.distinct
    · rw [hguards]
      exact h.finished
  · exact h.acquired (some i) hanswer
  · exact h.drop g

/-- Without a live unfinished guard there is nothing in the counters. -/
theorem Conserved.counters_eq_empty (h : w.Conserved l)
    (hnone : ∀ held ∈ w.guards, ¬(held.alive = true ∧ held.guard.active = true)) :
    w.counters = {} := by
  refine h.noZero.eq_empty fun s => ?_
  rw [h.counts, holders]
  refine List.countP_eq_zero.mpr fun held hheld hholds => ?_
  simp only [HeldGuard.holds, Bool.and_eq_true] at hholds
  exact hnone held hheld ⟨hholds.1, hholds.2.1⟩

/-! ## Ownership -/

/-- The guards of request `i` are what they were. -/
def Keeps (w w' : World) (i : Nat) : Prop :=
  ∀ (g : GuardId) (held : HeldGuard), w.guards[g]? = some held → held.owner = some i →
    w'.guards[g]? = some held

theorem Keeps.of_eq {w w' : World} (h : w'.guards = w.guards) (i : Nat) : w.Keeps w' i := by
  intro g held hg _
  rw [h]
  exact hg

theorem keeps_acquired (w : World) (owner : Option Nat)
    (answer : Except AdmissionRejection AdmissionGuard × AdmissionCounters) (i : Nat) :
    w.Keeps (w.acquired owner answer).2 i := by
  obtain ⟨result, counters⟩ := answer
  intro g held hg _
  cases result with
  | error rejection => exact hg
  | ok guard =>
      obtain ⟨hlt, -⟩ := List.getElem?_eq_some_iff.mp hg
      show (w.guards ++ [_])[g]? = some held
      rw [List.getElem?_append_left hlt]
      exact hg

/-- Finishing or dropping the guard of somebody else. -/
theorem keeps_finish {w : World} {i : Nat}
    (hother : ∀ held, w.guards[g]? = some held → held.owner ≠ some i) (alive : Bool) :
    w.Keeps (w.finish g alive) i := by
  intro g' held' hg' howner
  unfold World.finish
  cases hg : w.guards[g]? with
  | none => exact hg'
  | some held =>
      have hne : g ≠ g' := by
        rintro rfl
        exact hother held' hg' howner
      show (w.guards.set g _)[g']? = some held'
      rw [List.getElem?_set_ne hne]
      exact hg'

theorem keeps_dropOwned {i j : Nat} (hne : j ≠ i) (w : World) : w.Keeps (w.dropOwned j) i := by
  unfold World.dropOwned
  generalize List.range w.guards.length = gs
  induction gs generalizing w with
  | nil => exact Keeps.of_eq rfl i
  | cons g gs ih =>
      rw [List.foldl_cons]
      split
      · rename_i howns
        have hother : ∀ held, w.guards[g]? = some held → held.owner ≠ some i := by
          intro held hg howner
          simp only [owns, hg, Option.any_some, Bool.and_eq_true, beq_iff_eq, howner,
            Option.some.injEq] at howns
          exact hne howns.1.symm
        intro g' held' hg' howner
        exact ih (w.drop g) g' held' (keeps_finish hother false g' held' hg' howner) howner
      · exact ih w

theorem keeps_disown {i j : Nat} (hne : j ≠ i) (w : World) : w.Keeps (w.disown j) i := by
  intro g held hg howner
  have hother : held.owner ≠ some j := by
    rw [howner]
    exact fun heq => hne (Option.some.inj heq).symm
  show (w.guards.map _)[g]? = some held
  rw [List.getElem?_map, hg, Option.map_some, if_neg hother]

theorem Ambient.keeps {w w' : World} (h : w.Ambient w') (i : Nat) : w.Keeps w' i := by
  have hfree {g : GuardId} {held : HeldGuard} (hg : w.guards[g]? = some held)
      (howner : held.owner = none) :
      ∀ other, w.guards[g]? = some other → other.owner ≠ some i := by
    intro other hother
    rw [hg] at hother
    obtain rfl := Option.some.inj hother
    rw [howner]
    exact fun heq => nomatch heq
  cases h with
  | tick ht => exact Keeps.of_eq rfl i
  | acquireRequest poolName => exact keeps_acquired w none _ i
  | acquireProvider p => exact keeps_acquired w none _ i
  | finish hg howner halive => exact keeps_finish (hfree hg howner) true
  | drop hg howner halive => exact keeps_finish (hfree hg howner) false

/-- Request `i` has a live unfinished guard at `g`, which holds `slot` if there is a limit
on it. -/
def OwnsSlot (l : AdmissionLimits) (w : World) (i : Nat) (slot : AdmissionSlot) (g : GuardId) :
    Prop :=
  ∃ held, w.guards[g]? = some held ∧ held.owner = some i ∧
    (held.alive = true ∧ held.guard.active = true) ∧
    ((l.of slot).isSome = true → slot ∈ held.guard.slots)

section OwnsSlot

variable {i : Nat} {slot : AdmissionSlot} {g : GuardId} {w' : World}

theorem OwnsSlot.keeps (h : w.OwnsSlot l i slot g) (hw : w.Keeps w' i) :
    w'.OwnsSlot l i slot g := by
  obtain ⟨held, hg, howner, hslot⟩ := h
  exact ⟨held, hw g held hg howner, howner, hslot⟩

theorem OwnsSlot.lt (h : w.OwnsSlot l i slot g) : g < w.guards.length := by
  obtain ⟨held, hg, -⟩ := h
  exact (List.getElem?_eq_some_iff.mp hg).1

/-- A guard is left alone when another one is dropped. -/
theorem OwnsSlot.drop (h : w.OwnsSlot l i slot g) {g' : GuardId} (hne : g' ≠ g) :
    (w.drop g').OwnsSlot l i slot g := by
  obtain ⟨held, hg, howner⟩ := h
  unfold World.drop World.finish
  cases w.guards[g']? with
  | none => exact ⟨held, hg, howner⟩
  | some other => exact ⟨held, (List.getElem?_set_ne hne).trans hg, howner⟩

/-- A guard that is handed out is new in the table. -/
theorem ownsSlot_acquired (hacquires : w.Acquires answer)
    (h : w.acquired (some i) answer = (.ok g, w'))
    (hslots : ∀ guard, answer.1 = .ok guard → (l.of slot).isSome = true → slot ∈ guard.slots) :
    g = w.guards.length ∧ w'.OwnsSlot l i slot g := by
  obtain ⟨result, counters⟩ := answer
  cases result with
  | error rejection => cases h
  | ok guard =>
      have hgranted : AdmissionCounters.Granted w.limits w.counters guard counters := hacquires
      obtain ⟨hg, rfl⟩ := Prod.mk.inj h
      obtain rfl := Except.ok.inj hg
      exact ⟨rfl, _, List.getElem?_concat_length, rfl, ⟨rfl, hgranted.active⟩, hslots guard rfl⟩

/-- The guard of a request holds the slot of the gateway and that of its pool. -/
theorem tryAcquireRequest_ownsSlot {poolName : Option String} (hlimits : w.limits = l)
    (h : w.tryAcquireRequest (some i) poolName = (.ok g, w'))
    (hslot : slot = .global ∨ ∃ name, poolName = some name ∧ slot = .pool name) :
    g = w.guards.length ∧ w'.OwnsSlot l i slot g := by
  refine ownsSlot_acquired (w.acquires_request poolName) h fun guard hguard hsome => ?_
  have hanswer : w.counters.tryAcquireRequest w.limits poolName = (.ok guard, _) :=
    Prod.ext hguard rfl
  rw [AdmissionCounters.tryAcquireRequest_slots hanswer, hlimits]
  exact AdmissionCounters.mem_requestSlots.mpr ⟨hsome, hslot⟩

theorem tryAcquireProvider_ownsSlot {p : String} (hlimits : w.limits = l)
    (h : w.tryAcquireProvider (some i) p = (.ok g, w')) :
    g = w.guards.length ∧ w'.OwnsSlot l i (.provider p) g := by
  refine ownsSlot_acquired (w.acquires_provider p) h fun guard hguard hsome => ?_
  have hanswer : w.counters.tryAcquireProvider w.limits p = (.ok guard, _) :=
    Prod.ext hguard rfl
  have hlimit : (w.limits.providerMaxInFlight p).isSome = true := hlimits ▸ hsome
  rw [AdmissionCounters.tryAcquireProvider_slots hanswer, if_pos hlimit]
  exact List.mem_singleton_self _

end OwnsSlot

end World

/-! ## Requests and their guards -/

/-- The request has taken `slot`, if there is a limit on it, with the guard at `g`. -/
def Phase.Holds (s : Phase) (g : GuardId) : AdmissionSlot → Prop
  | .global => ∃ poolName, s.requestGuard = some (poolName, g)
  | .pool name => s.requestGuard = some (some name, g)
  | .provider p => s.call = .admitted p g ∨ s.call = .settled p g

/-- The operation hands out a guard for `slot`. -/
inductive Takes : (o : Op) → Ans o → GuardId → AdmissionSlot → Prop
  | gateway (poolName : Option String) (g : GuardId) :
      Takes (.tryAcquireRequest poolName) (.ok g) g .global
  | pool (name : String) (g : GuardId) :
      Takes (.tryAcquireRequest (some name)) (.ok g) g (.pool name)
  | provider (index : Nat) (p : String) (g : GuardId) :
      Takes (.tryAcquireProvider index p) (.ok g) g (.provider p)

namespace Phase

variable {s s' : Phase} {g : GuardId} {slot : AdmissionSlot}

/-- A move of the call does not concern the guard of the request. -/
theorem Holds.of_call {call : CallPhase} {P : AdmissionSlot → Prop}
    (h : { s with call := call }.Holds g slot)
    (hcall : ∀ p, { s with call := call }.Holds g (.provider p) →
      s.Holds g (.provider p) ∨ P (.provider p)) : s.Holds g slot ∨ P slot := by
  cases slot with
  | global => exact .inl h
  | pool name => exact .inl h
  | provider p => exact hcall p h

/-- What is held after an operation was held before, or is what the operation hands out. -/
theorem holds_of_watch (hs : s.watch o a = some s') (h : s'.Holds g slot) :
    s.Holds g slot ∨ Takes o a g slot := by
  cases o with
  | allowProviderCall index p =>
      obtain ⟨-, rfl⟩ := move_allow_inv hs
      exact h.of_call fun q hq => by cases a <;> simp [Holds] at hq
  | tryAcquireProvider index p =>
      cases a with
      | ok g' =>
          obtain ⟨-, rfl⟩ := move_reserve_ok_inv hs
          refine h.of_call fun q hq => ?_
          obtain ⟨rfl, rfl⟩ : p = q ∧ g' = g := by simpa [Holds] using hq
          exact .inr (.provider index p g')
      | error rejection =>
          obtain ⟨-, rfl⟩ := move_reserve_error_inv hs
          exact h.of_call fun q hq => by simp [Holds] at hq
  | chatCompletion site p request | chatCompletionStream site p request =>
      obtain ⟨rfl, -⟩ := move_call_inv hs
      exact .inl h
  | pollStream p =>
      obtain ⟨rfl, -⟩ := move_poll_inv hs
      exact .inl h
  | recordSuccess index p | recordFailure index p =>
      obtain ⟨g', hcall, rfl⟩ := move_report_inv hs
      refine h.of_call fun q hq => ?_
      obtain ⟨rfl, rfl⟩ : p = q ∧ g' = g := by simpa [Holds] using hq
      exact .inl (.inl hcall)
  | dropAdmissionGuard g' =>
      rcases dropGuard_inv hs with ⟨-, -, rfl⟩ | ⟨-, rfl⟩
      · cases slot with
        | global => simp [Holds] at h
        | pool name => simp [Holds] at h
        | provider p => exact .inl h
      · exact h.of_call fun q hq => by simp [Holds] at hq
  | tryAcquireRequest poolName =>
      cases a with
      | ok g' =>
          obtain ⟨-, rfl⟩ := acquireRequest_ok_inv hs
          cases slot with
          | global =>
              obtain rfl : g' = g := by simpa [Holds] using h
              exact .inr (.gateway poolName g')
          | pool name =>
              obtain ⟨rfl, rfl⟩ : poolName = some name ∧ g' = g := by simpa [Holds] using h
              exact .inr (.pool name g')
          | provider p => exact .inl h
      | error rejection =>
          obtain rfl := Option.some.inj hs
          exact .inl h
  | _ =>
      obtain rfl := Option.some.inj hs
      exact .inl h

end Phase

/-- What request `i` holds in its phase is in the table, and the guard of the request is not
that of the provider. -/
structure Phase.Backed (l : AdmissionLimits) (w : World) (i : Nat) (s : Phase) : Prop where
  owns : ∀ g slot, s.Holds g slot → w.OwnsSlot l i slot g
  distinct : ∀ g p, s.Holds g .global → ¬ s.Holds g (.provider p)

namespace Phase.Backed

open World

variable {l : AdmissionLimits} {w w' : World} {i : Nat} {s s' : Phase}

theorem start (l : AdmissionLimits) (w : World) (i : Nat) : Phase.Backed l w i {} where
  owns := by
    intro g slot h
    cases slot <;> simp [Holds] at h
  distinct := by simp [Holds]

theorem keeps (h : s.Backed l w i) (hw : w.Keeps w' i) : s.Backed l w' i where
  owns := fun g slot hslot => (h.owns g slot hslot).keeps hw
  distinct := h.distinct

/-- The guard a request drops is one of its own, and it does not hold it any more. -/
theorem dropGuard (h : s.Backed l w i) (hs : s.dropGuard g = some s') :
    (∃ slot, w.OwnsSlot l i slot g) ∧ ∀ slot, ¬ s'.Holds g slot := by
  rcases Phase.dropGuard_inv hs with ⟨hidle, hg, rfl⟩ | ⟨⟨p, hp⟩, rfl⟩
  · refine ⟨⟨.global, h.owns g .global hg⟩, fun slot hslot => ?_⟩
    cases slot <;> simp [Holds, hidle] at hslot
  · refine ⟨⟨.provider p, h.owns g (.provider p) hp⟩, fun slot hslot => ?_⟩
    cases slot with
    | global => exact h.distinct g p hslot hp
    | pool name => exact h.distinct g p ⟨_, hslot⟩ hp
    | provider q => simp [Holds] at hslot

/-- An operation of another request leaves the guards of this one alone. -/
theorem keeps_exec (h : s.Backed l w i) (hw : w.exec i o a w') (hs : s.watch o a = some s')
    {j : Nat} (hne : j ≠ i) : w.Keeps w' j := by
  rcases World.exec_slots hw with ⟨-, -, hguards⟩ | ⟨answer, -, rfl⟩ | ⟨g, rfl, rfl⟩
  · exact Keeps.of_eq hguards j
  · exact keeps_acquired w (some i) answer j
  · obtain ⟨⟨slot, held, hg, howner, -⟩, -⟩ := h.dropGuard hs
    refine keeps_finish (fun other hother => ?_) false
    rw [hg] at hother
    obtain rfl := Option.some.inj hother
    rw [howner]
    exact fun heq => hne (Option.some.inj heq).symm

/-- What is held before and after an operation stays in the table. -/
theorem owns_exec (h : s.Backed l w i) (hw : w.exec i o a w') (hs : s.watch o a = some s')
    {slot : AdmissionSlot} (hold : s.Holds g slot) (hslot : s'.Holds g slot) :
    w'.OwnsSlot l i slot g := by
  rcases World.exec_slots hw with ⟨-, -, hguards⟩ | ⟨answer, -, rfl⟩ | ⟨g', rfl, rfl⟩
  · exact (h.owns g slot hold).keeps (Keeps.of_eq hguards i)
  · exact (h.owns g slot hold).keeps (keeps_acquired w (some i) answer i)
  · refine (h.owns g slot hold).drop ?_
    rintro rfl
    exact (h.dropGuard hs).2 slot hslot

/-- What an operation hands out is new in the table. -/
theorem owns_takes (hlimits : w.limits = l) {slot : AdmissionSlot} (h : Takes o a g slot)
    (hw : w.exec i o a w') :
    g = w.guards.length ∧ w'.OwnsSlot l i slot g := by
  cases h with
  | gateway poolName g => exact tryAcquireRequest_ownsSlot hlimits hw (.inl rfl)
  | pool name g => exact tryAcquireRequest_ownsSlot hlimits hw (.inr ⟨name, rfl, rfl⟩)
  | provider index p g => exact tryAcquireProvider_ownsSlot hlimits hw

/-- A request keeps its own guards backed. -/
theorem exec (h : s.Backed l w i) (hlimits : w.limits = l) (hw : w.exec i o a w')
    (hs : s.watch o a = some s') : s'.Backed l w' i where
  owns := by
    intro g slot hslot
    rcases Phase.holds_of_watch hs hslot with hold | htakes
    · exact h.owns_exec hw hs hold hslot
    · exact (owns_takes hlimits htakes hw).2
  distinct := by
    intro g p hglobal hp
    -- A guard in the table is not the one that is handed out.
    have hfresh : ∀ slot slot', s.Holds g slot → ¬ Takes o a g slot' := by
      intro slot slot' hold htakes
      exact Nat.ne_of_lt (h.owns g slot hold).lt (owns_takes hlimits htakes hw).1
    rcases Phase.holds_of_watch hs hglobal with hold | htakes
    · rcases Phase.holds_of_watch hs hp with hold' | htakes'
      · exact h.distinct g p hold hold'
      · exact hfresh _ _ hold htakes'
    · rcases Phase.holds_of_watch hs hp with hold' | htakes'
      · exact hfresh _ _ hold' htakes
      · cases htakes
        cases htakes'

end Phase.Backed
end RustyGate
