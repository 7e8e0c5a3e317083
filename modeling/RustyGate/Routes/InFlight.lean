/-
Requests in flight.

Any number of requests to the two routes run side by side, each of them possibly dropped
at any moment, next to whatever else acquires and releases guards.  The counters are
conserved, and a request owns what it has taken, so the requests in flight are bounded by
every limit.  A provider is used only by a request that holds a slot of it.

A request uses a provider from its first call on until it cannot call or poll it any more
without asking for another slot (`MayUse`).  A streamed answer is in use that long even
while nobody reads it.
-/
import RustyGate.Gateway.Slots
import RustyGate.Routes.Phases
import RustyGate.Routing.FallbackRuns
import Mathlib.Data.Finset.Card

namespace RustyGate

open Effect Effect.Program Gateway

/-- A request to one of the routes, whose answer is read to the end unless the request is
dropped. -/
inductive RouteProgram : Gateway Unit → Prop
  | chat (state : AppState) (key : AuthenticatedKey) (requestId : Uuid)
      (body : Option ChatCompletionRequest) :
      RouteProgram (serve (chatCompletions state key requestId body))
  | responses (state : AppState) (key : AuthenticatedKey) (requestId : Uuid)
      (request : ResponseRequest) : RouteProgram (serve (responses state key requestId request))

theorem RouteProgram.follows {p : Gateway Unit} (h : RouteProgram p) :
    p.Follows Phase.watch (fun _ s => s = {}) {} := by
  cases h with
  | chat state key requestId body =>
      exact serve_follows (chatCompletions_follows state key requestId body)
  | responses state key requestId request =>
      exact serve_follows (responses_follows state key requestId request)

/-- The requests of a gateway, which may be dropped at any operation. -/
def routed : Setting Ans Phase World :=
  requests (fun _ => true) (fun s => s = {}) RouteProgram

theorem routed_phased {C : Requests → Label Ans → Prop} {x z : Requests}
    (hx : x.Phased routed) (h : Reaches routed C x z) : z.Phased routed :=
  h.phased (fun _ hp => RouteProgram.follows hp) hx

/-- The counters stay conserved, and every request has in the table what it holds. -/
theorem routed_keeps (l : AdmissionLimits) :
    routed.Keeps (fun _ => True) (World.Conserved l) (fun w i s => s.Backed l w i) where
  start _ := Phase.Backed.start l _ _
  act _ hw hbacked hexec hwatch := ⟨hw.exec hexec, hbacked.exec hw.limits_eq hexec hwatch⟩
  others hbacked hexec hwatch hne hother := hother.keeps (hbacked.keeps_exec hexec hwatch hne)
  leave hw := ⟨hw.disown _, fun hne hother => hother.keeps (World.keeps_disown hne.symm _)⟩
  cancel hw := ⟨hw.dropOwned _, fun hne hother => hother.keeps (World.keeps_dropOwned hne.symm _)⟩
  ambient h hw := ⟨hw.ambient h, fun hother => hother.keeps (World.Ambient.keeps h _)⟩

/-! ## Using a provider -/

def Op.uses (p : String) : Op → Bool
  | .chatCompletion _ q _ | .chatCompletionStream _ q _ | .pollStream q => q == p
  | _ => false

def Op.isReserve : Op → Bool
  | .tryAcquireProvider _ _ => true
  | _ => false

/-- The program may call `p`, or poll a stream of it, before it asks for another slot. -/
inductive MayUse (p : String) : Gateway Unit → Prop
  | now {o : Op} {next : Ans o → Gateway Unit} (ho : o.uses p = true) : MayUse p (.op o next)
  | later {o : Op} {next : Ans o → Gateway Unit} (ho : o.isReserve = false) {a : Ans o}
      (hnext : MayUse p (next a)) : MayUse p (.op o next)

/-- The phase holds a slot of `p`. -/
def Phase.HoldsSlot (p : String) (s : Phase) : Prop :=
  ∃ g, s.Holds g (.provider p)

theorem Phase.holdsSlot_of_uses {p : String} {s : Phase} {o : Op} (ho : o.uses p = true)
    (hs : ∀ a, ∃ s', s.watch o a = some s') : s.HoldsSlot p := by
  cases o with
  | chatCompletion site q request =>
      obtain rfl : q = p := by simpa [Op.uses] using ho
      obtain ⟨s', hs'⟩ := hs (.error .timeout)
      obtain ⟨-, g, hg⟩ := Phase.move_call_inv hs'
      exact ⟨g, .inl hg⟩
  | chatCompletionStream site q request =>
      obtain rfl : q = p := by simpa [Op.uses] using ho
      obtain ⟨s', hs'⟩ := hs (.error .timeout)
      obtain ⟨-, g, hg⟩ := Phase.move_call_inv hs'
      exact ⟨g, .inl hg⟩
  | pollStream q =>
      obtain rfl : q = p := by simpa [Op.uses] using ho
      obtain ⟨s', hs'⟩ := hs ()
      obtain ⟨-, g, hg⟩ := Phase.move_poll_inv hs'
      exact ⟨g, hg⟩
  | _ => cases ho

/-- A slot that is held after an operation other than an acquire was held before. -/
theorem Phase.holdsSlot_of_watch {p : String} {s s' : Phase} {o : Op} {a : Ans o}
    (ho : o.isReserve = false) (hs : s.watch o a = some s') (h : s'.HoldsSlot p) :
    s.HoldsSlot p := by
  obtain ⟨g, hg⟩ := h
  rcases Phase.holds_of_watch hs hg with hold | htakes
  · exact ⟨g, hold⟩
  · cases htakes
    cases ho

/-- Whoever may use a provider holds a slot of it. -/
theorem MayUse.holdsSlot {p : String} {code : Gateway Unit} {post : Unit → Phase → Prop}
    (h : MayUse p code) {s : Phase} (hs : code.Follows Phase.watch post s) : s.HoldsSlot p := by
  induction h generalizing s with
  | now ho =>
      refine Phase.holdsSlot_of_uses ho fun a => ?_
      obtain ⟨s', hs', -⟩ := hs a
      exact ⟨s', hs'⟩
  | @later o next ho a hnext ih =>
      obtain ⟨s', hs', hfollows⟩ := hs a
      exact Phase.holdsSlot_of_watch ho hs' (ih hfollows)

/-- Request `i` is in progress and may use `p`. -/
def Uses (p : String) (x : Requests) (i : Nat) : Prop :=
  ∃ code s, x.threads[i]? = some ⟨some code, s⟩ ∧ MayUse p code

/-- Request `i` is in progress and has taken `slot`, and has not given it back. -/
def Occupies (slot : AdmissionSlot) (x : Requests) (i : Nat) : Prop :=
  ∃ code s g, x.threads[i]? = some ⟨some code, s⟩ ∧ s.Holds g slot

/-- The guards that hold a slot have different owners among the requests that have taken
it. -/
theorem card_occupies_le {l : AdmissionLimits} {x : Requests} (hx : x.world.Conserved l)
    (hheld : x.Held fun w i s => s.Backed l w i) {slot : AdmissionSlot} {limit : UInt64}
    (hlimit : l.of slot = some limit) {inProgress : Finset Nat}
    (hoccupies : ∀ i ∈ inProgress, Occupies slot x i) :
    inProgress.card ≤ limit.toNat := by
  let owners := (x.world.guards.filter (HeldGuard.holds slot)).map HeldGuard.owner
  have howner : ∀ i ∈ inProgress, some i ∈ owners := by
    intro i hi
    obtain ⟨code, s, g, ht, hslot⟩ := hoccupies i hi
    obtain ⟨held, hheld, howner, ⟨halive, hactive⟩, hmem⟩ := (hheld i code s ht).owns g slot hslot
    refine List.mem_map.mpr ⟨held, List.mem_filter.mpr ⟨List.mem_of_getElem? hheld, ?_⟩, howner⟩
    simpa [HeldGuard.holds, halive, hactive] using hmem (by rw [hlimit]; rfl)
  have hsub : inProgress.map ⟨some, Option.some_injective Nat⟩ ⊆ owners.toFinset := by
    intro o ho
    obtain ⟨i, hi, rfl⟩ := Finset.mem_map.mp ho
    exact List.mem_toFinset.mpr (howner i hi)
  calc inProgress.card
      = (inProgress.map ⟨some, Option.some_injective Nat⟩).card := (Finset.card_map _).symm
    _ ≤ owners.toFinset.card := Finset.card_le_card hsub
    _ ≤ owners.length := List.toFinset_card_le owners
    _ = x.world.counters.count slot := by
        rw [List.length_map, hx.counts, World.holders, List.countP_eq_length_filter]
    _ ≤ limit.toNat := hx.capped slot limit hlimit

/-! ## The gateway -/

/-- What the admission control promises about a state of the gateway. -/
structure SlotsConserved (l : AdmissionLimits) (z : Requests) : Prop where
  /-- The counters are the live unfinished guards, slot by slot. -/
  counts : ∀ s, z.world.counters.count s = z.world.holders s
  capped : ∀ s limit, l.of s = some limit → z.world.counters.count s ≤ limit.toNat
  noZero : z.world.counters.NoZero
  rejectedRequest : ∀ owner poolName rejection,
    (z.world.tryAcquireRequest owner poolName).1 = .error rejection →
      (z.world.tryAcquireRequest owner poolName).2.counters = z.world.counters
  rejectedProvider : ∀ owner p rejection,
    (z.world.tryAcquireProvider owner p).1 = .error rejection →
      (z.world.tryAcquireProvider owner p).2.counters = z.world.counters
  /-- A request that has taken a slot owns a live unfinished guard, which holds the slot if
  there is a limit on it. -/
  owned : ∀ i code s, z.threads[i]? = some ⟨some code, s⟩ → ∀ g slot, s.Holds g slot →
    z.world.OwnsSlot l i slot g
  /-- No set of requests in progress that have taken a slot is larger than its limit. -/
  admitted : ∀ slot limit, l.of slot = some limit →
    ∀ inProgress : Finset Nat, (∀ i ∈ inProgress, Occupies slot z i) →
      inProgress.card ≤ limit.toNat
  /-- No set of requests that use a provider is larger than its limit. -/
  inFlight : ∀ p limit, l.providerMaxInFlight p = some limit →
    ∀ inProgress : Finset Nat, (∀ i ∈ inProgress, Uses p z i) → inProgress.card ≤ limit.toNat
  empty : (∀ held ∈ z.world.guards, ¬(held.alive = true ∧ held.guard.active = true)) →
    z.world.counters = {}

theorem World.counters_acquired_error {w : World} {owner : Option Nat}
    {answer : Except AdmissionRejection AdmissionGuard × AdmissionCounters}
    (hanswer : w.Acquires answer) {rejection : AdmissionRejection}
    (h : (w.acquired owner answer).1 = .error rejection) :
    (w.acquired owner answer).2.counters = w.counters := by
  obtain ⟨result, counters⟩ := answer
  cases result with
  | ok guard => cases h
  | error rejection => exact hanswer

section Runs

variable (defaultPolicy : ProviderResiliencePolicy)
  (providerPolicies : String → Option ProviderResiliencePolicy) (providerNames : List String)
  (limits : AdmissionLimits)

theorem slots_conserved {z : Requests}
    (hrun : Reaches routed (fun _ _ => True)
      (freshGateway defaultPolicy providerPolicies providerNames limits) z) :
    SlotsConserved limits z := by
  have hphase := routed_phased (Pool.phased_nil _ _) hrun
  obtain ⟨hconserved, hheld⟩ := hrun.keeps_nil (routed_keeps limits)
    (fun _ hp => RouteProgram.follows hp) (World.Conserved.of_empty rfl rfl rfl)
  refine ⟨hconserved.counts, hconserved.capped, hconserved.noZero, ?_, ?_,
    fun i code s hi => (hheld i code s hi).owns,
    fun slot limit hlimit inProgress => card_occupies_le hconserved hheld hlimit, ?_,
    hconserved.counters_eq_empty⟩
  · intro owner poolName rejection hrejected
    exact World.counters_acquired_error (World.acquires_request ..) hrejected
  · intro owner p rejection hrejected
    exact World.counters_acquired_error (World.acquires_provider ..) hrejected
  · intro p limit hlimit inProgress huses
    have hof : limits.of (.provider p) = some limit := hlimit
    refine card_occupies_le hconserved hheld hof fun i hi => ?_
    obtain ⟨code, s, ht, hmay⟩ := huses i hi
    obtain ⟨g, hg⟩ := hmay.holdsSlot (hphase i code s ht)
    exact ⟨code, s, g, ht, hg⟩

end Runs

/-- Limits that let one request in. -/
def oneSlot : AdmissionLimits where
  maxGlobalInFlight := some 1
  poolMaxInFlight := fun _ => some 1
  providerMaxInFlight := fun _ => some 1

def pooledRequest : Gateway Unit :=
  serve (chatCompletions
    { fallback := plainContext, admission := oneSlot,
      poolForPublicModel := fun _ => some "chat" } { id := "key" } 0 (some plainRequest))

def handlePooled (i : Nat) : (o : Op) → World → Ans o × World :=
  World.handle i (twoCandidates (fun _ => true) (fun _ => .error .providerUnavailable)
    fun _ => .error .timeout) fun _ => 0

/-- A request up to its first call. -/
def pooledAhead : Thread Ans Phase × World :=
  Thread.ahead Phase.watch (handlePooled 0) 8 ⟨some pooledRequest, {}⟩
    (freshGateway {} (fun _ => none) [] oneSlot).world

theorem pooledAhead_holds : ∃ code, pooledAhead.1 = ⟨some code,
    { requestGuard := some (some "chat", 0), call := .admitted "mock-primary" 1 }⟩ := by
  have hphase : pooledAhead.1.phase =
      { requestGuard := some (some "chat", 0), call := .admitted "mock-primary" 1 } := by
    decide +kernel
  obtain ⟨code, hcode⟩ := Option.isSome_iff_exists.mp
    (show pooledAhead.1.code.isSome = true by decide +kernel)
  exact ⟨code, by rw [← hcode, ← hphase]⟩

/-- Two requests to a gateway that takes one at a time.  The first one has taken a slot of
every kind when the second one is refused, and gives them back in the end. -/
theorem slots_conserved_refused :
    let fresh := freshGateway {} (fun _ => none) [] oneSlot
    ∃ y z : Requests, Reaches routed (fun _ _ => True) fresh y ∧
      Reaches routed (fun _ _ => True) fresh z ∧
      (Occupies .global y 0 ∧ Occupies (.pool "chat") y 0 ∧
        Occupies (.provider "mock-primary") y 0) ∧
      (y.world.holders .global = 1 ∧ y.world.holders (.pool "chat") = 1 ∧
        y.world.holders (.provider "mock-primary") = 1) ∧
      (y.world.tryAcquireRequest (some 1) (some "chat")).1.toOption = none ∧
      (y.threads.length = 2 ∧ y.world.guards.length = 2) ∧ z.world.counters = {} ∧
      SlotsConserved oneSlot y ∧ SlotsConserved oneSlot z := by
  intro fresh
  have hexec : ∀ i o (w : World), 0 ≤ w.time → routed.exec i w o (handlePooled i o w).1
      (handlePooled i o w).2 ∧ 0 ≤ (handlePooled i o w).2.time :=
    fun i o _ hw => World.exec_handle i _ o hw
  have hprogram : routed.programs pooledRequest := .chat ..
  have harrived := (Reaches.refl (E := routed) (C := fun _ _ => True) (x := fresh)).step
    (.spawn hprogram) trivial
  have hholds : Reaches routed (fun _ _ => True) fresh ⟨[pooledAhead.1], pooledAhead.2⟩ :=
    harrived.ahead (hexec 0) 8 (Nat.zero_le _) rfl
  obtain ⟨s, hrefused⟩ := hholds.call hprogram (hexec 1) (Nat.zero_le _)
  have hended := hrefused.ahead (hexec 0) 32 (Nat.zero_le _) rfl
  have hz := slots_conserved _ _ _ _ hended
  obtain ⟨code, hcode⟩ := pooledAhead_holds
  have hthread := congrArg some hcode
  refine ⟨_, _, hrefused, hended, ⟨⟨_, _, 0, hthread, _, rfl⟩, ⟨_, _, 0, hthread, rfl⟩,
    ⟨_, _, 1, hthread, .inl rfl⟩⟩, ?_, ?_, ⟨rfl, ?_⟩, hz.empty ?_,
    slots_conserved _ _ _ _ hrefused, hz⟩
  all_goals dsimp only
  · decide +kernel
  · decide +kernel
  · decide +kernel
  · decide +kernel

end RustyGate
