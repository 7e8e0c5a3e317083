/-
Probes of half-open circuits.

A half-open circuit lets a bounded number of probes through, and only the report of one
of them moves it on.  A circuit whose probes are used up is `Exhausted`.  As long as
some call that was let through is still to be reported, this passes.  But the fallback
loops have exits without a report: the slot may be refused after the circuit has let
the call through, the provider may fail with an error that is not retryable, a stream may
be empty, and the request may be dropped.  If the last unreported call of an exhausted
circuit takes such an exit, nobody is left to report and the provider is locked out for
good.

`probes_unleaked_iff` says that this is the only way.
-/
import RustyGate.Gateway.Setting
import RustyGate.Routing.FallbackRuns

namespace RustyGate

open Effect Effect.Program Gateway

/-- The operations at which the fallback loops wait. -/
def Op.isAwait : Op → Bool
  | .chatCompletion _ _ _ | .chatCompletionStream _ _ _ | .pollStream _ | .sleep _ _ => true
  | _ => false

/-- A call of `complete_chat` or `complete_chat_stream`, whatever becomes of its result. -/
inductive FallbackProgram : Gateway Unit → Prop
  | chat (context : FallbackContext) (request : ChatCompletionRequest) :
      FallbackProgram ((completeChat context request).bind fun _ => .ret ())
  | stream (context : FallbackContext) (request : ChatCompletionRequest) :
      FallbackProgram ((completeChatStream context request).bind fun _ => .ret ())

namespace Phase

/-- A call to `p` was let through and is not reported yet. -/
def unreported (p : String) (s : Phase) : Bool :=
  match s.call with
  | .granted q | .admitted q _ => q == p
  | _ => false

end Phase

/-- The calls of a gateway. -/
def calls : Setting Ans Phase World :=
  requests Op.isAwait (fun s => ∀ p, s.unreported p = false) FallbackProgram

namespace World

/-- The probes of the half-open circuit of `p` are used up. -/
def Exhausted (w : World) (p : String) : Prop :=
  (w.registry.circuit p).state = .halfOpen ∧
    (w.registry.breakerFor p).maxProbes ≤ (w.registry.circuit p).halfOpenProbesUsed

instance (w : World) (p : String) : Decidable (w.Exhausted p) :=
  inferInstanceAs (Decidable (_ ∧ _))

/-- Once the cool-down is over, the next call to `p` is let through. -/
def Available (w : World) (p : String) : Prop :=
  ∀ now, (∀ opened ∈ (w.registry.circuit p).openedAt,
      opened + (w.registry.breakerFor p).openDuration ≤ now) →
    (w.registry.allowProviderCall now p).1 = true

end World

/-! ## Events and a provider -/

/-- The circuit of `p` lets a call through. -/
def grants (p : String) : Event Ans → Bool
  | ⟨.allowProviderCall _ q, allowed⟩ => allowed && q == p
  | _ => false

/-- A call to `p` is reported. -/
def reports (p : String) : Event Ans → Bool
  | ⟨.recordSuccess _ q, _⟩ | ⟨.recordFailure _ q, _⟩ => q == p
  | _ => false

/-- The slot is refused or given back, which ends a call whether or not it was
reported. -/
def givesUp : Event Ans → Bool
  | ⟨.tryAcquireProvider _ _, .error _⟩ => true
  | ⟨.dropAdmissionGuard _, _⟩ => true
  | _ => false

theorem not_givesUp_of_reports {p : String} {e : Event Ans} (h : reports p e = true) :
    givesUp e = false := by
  obtain ⟨o, a⟩ := e
  cases o with
  | recordSuccess index q => rfl
  | recordFailure index q => rfl
  | _ => cases h

theorem not_grants_of_reports {p : String} {e : Event Ans} (h : reports p e = true) :
    grants p e = false := by
  obtain ⟨o, a⟩ := e
  cases o with
  | recordSuccess index q => rfl
  | recordFailure index q => rfl
  | _ => cases h

namespace Phase

/-- How an event moves the phase with respect to `p`. -/
theorem unreported_watch {s s' : Phase} {o : Op} {a : Ans o} (h : s.watch o a = some s')
    (p : String) :
    s'.unreported p =
      (grants p ⟨o, a⟩ || (s.unreported p && !reports p ⟨o, a⟩ && !givesUp ⟨o, a⟩)) := by
  obtain ⟨requestGuard, call⟩ := s
  cases o with
  | allowProviderCall index q =>
      obtain ⟨rfl, rfl⟩ := move_allow_inv h
      cases a with
      | false => rfl
      | true => simp [unreported, grants]
  | tryAcquireProvider index q =>
      cases a with
      | ok g =>
          obtain ⟨rfl, rfl⟩ := move_reserve_ok_inv h
          simp [unreported, grants, reports, givesUp]
      | error rejection =>
          obtain ⟨rfl, rfl⟩ := move_reserve_error_inv h
          simp [unreported, grants, reports, givesUp]
  | chatCompletion site q request =>
      obtain ⟨rfl, -⟩ := move_call_inv h
      simp [grants, reports, givesUp]
  | chatCompletionStream site q request =>
      obtain ⟨rfl, -⟩ := move_call_inv h
      simp [grants, reports, givesUp]
  | pollStream q =>
      obtain ⟨rfl, -⟩ := move_poll_inv h
      simp [grants, reports, givesUp]
  | recordSuccess index q =>
      obtain ⟨g, rfl, rfl⟩ := move_report_inv h
      simp [unreported, grants, reports]
  | recordFailure index q =>
      obtain ⟨g, rfl, rfl⟩ := move_report_inv h
      simp [unreported, grants, reports]
  | dropAdmissionGuard g =>
      rcases dropGuard_inv h with ⟨rfl, -, rfl⟩ | ⟨-, rfl⟩
      · rfl
      · simp [unreported, grants, givesUp]
  | tryAcquireRequest poolName =>
      cases a with
      | ok g =>
          obtain ⟨-, rfl⟩ := acquireRequest_ok_inv h
          simp [unreported, grants, reports, givesUp]
      | error rejection =>
          obtain rfl := Option.some.inj h
          simp [grants, reports, givesUp]
  | _ =>
      obtain rfl := Option.some.inj h
      simp [grants, reports, givesUp]

/-- A call is let through only when the one before it is over. -/
theorem not_unreported_of_grants {s s' : Phase} {o : Op} {a : Ans o}
    (h : s.watch o a = some s') {p : String} (hg : grants p ⟨o, a⟩ = true) :
    s.unreported p = false := by
  obtain ⟨requestGuard, call⟩ := s
  cases o with
  | allowProviderCall index q =>
      obtain ⟨rfl, -⟩ := move_allow_inv h
      rfl
  | _ => cases hg

theorem unreported_of_reports {s s' : Phase} {o : Op} {a : Ans o}
    (h : s.watch o a = some s') {p : String} (hr : reports p ⟨o, a⟩ = true) :
    s.unreported p = true := by
  obtain ⟨requestGuard, call⟩ := s
  cases o with
  | recordSuccess index q =>
      obtain ⟨g, rfl, -⟩ := move_report_inv h
      exact hr
  | recordFailure index q =>
      obtain ⟨g, rfl, -⟩ := move_report_inv h
      exact hr
  | _ => cases hr

end Phase

namespace World

theorem registry_dropOwned (i : Nat) (w : World) : (w.dropOwned i).registry = w.registry := by
  unfold dropOwned
  generalize List.range w.guards.length = gs
  induction gs generalizing w with
  | nil => rfl
  | cons g gs ih =>
      rw [List.foldl_cons, ih]
      split
      · exact registry_drop w g
      · rfl

theorem Ambient.registry_eq {w w' : World} (h : w.Ambient w') : w'.registry = w.registry := by
  cases h with
  | tick ht => rfl
  | acquireRequest poolName => exact registry_acquired ..
  | acquireProvider p => exact registry_acquired ..
  | finish hg howner halive => exact registry_finish ..
  | drop hg howner halive => exact registry_drop ..

/-- An exhausted circuit lets nothing through. -/
theorem Exhausted.refuses {w : World} {p : String} (h : w.Exhausted p) (now : Nat) :
    (w.registry.circuit p).allowProviderCall (w.registry.breakerFor p) now =
      (false, w.registry.circuit p) := by
  rw [ProviderCircuitState.allowProviderCall, h.1]
  simp only
  rw [if_neg (Nat.not_lt.mpr h.2)]

theorem exhausted_congr {w w' : World} {p : String}
    (hc : w'.registry.circuit p = w.registry.circuit p)
    (hb : w'.registry.breakerFor p = w.registry.breakerFor p) :
    w'.Exhausted p ↔ w.Exhausted p := by
  rw [Exhausted, Exhausted, hc, hb]

theorem exhausted_of_registry_eq {w w' : World} (h : w'.registry = w.registry) (p : String) :
    w'.Exhausted p ↔ w.Exhausted p :=
  exhausted_congr (by rw [h]) (by rw [h])

/-- A circuit is exhausted by a call it lets through, and is then left alone until a call
is reported. -/
theorem exhausted_allowProviderCall {w w' : World} {now : Nat} {q : String} {allowed : Bool}
    (h : w.allowProviderCall now q = (allowed, w')) (p : String) :
    (w'.Exhausted p → (allowed = true ∧ q = p) ∨ w.Exhausted p) ∧
      (w.Exhausted p → w'.Exhausted p ∧ ¬(allowed = true ∧ q = p)) := by
  have hallowed : ((w.registry.circuit q).allowProviderCall
      (w.registry.breakerFor q) now).1 = allowed := congrArg Prod.fst h
  obtain rfl : { w with registry := (w.registry.allowProviderCall now q).2 } = w' :=
    congrArg Prod.snd h
  by_cases hq : q = p
  · subst hq
    cases hanswer : (w.registry.circuit q).allowProviderCall (w.registry.breakerFor q) now with
    | mk answer c =>
        rw [hanswer] at hallowed
        subst hallowed
        cases answer with
        | true =>
            refine ⟨fun _ => .inl ⟨rfl, rfl⟩, fun hex => ?_⟩
            rw [hex.refuses now] at hanswer
            cases hanswer
        | false =>
            have hsame : c = w.registry.circuit q :=
              (ProviderCircuitState.allow_false hanswer).1
            have hiff : ({ w with registry := (w.registry.allowProviderCall now q).2 } :
                World).Exhausted q ↔ w.Exhausted q :=
              exhausted_congr
                (by rw [ResilienceRegistry.circuit_allowProviderCall_self, hanswer, hsame]) rfl
            exact ⟨fun hex => .inr (hiff.mp hex),
              fun hex => ⟨hiff.mpr hex, fun hall => Bool.false_ne_true hall.1⟩⟩
  · have hiff : ({ w with registry := (w.registry.allowProviderCall now q).2 } :
        World).Exhausted p ↔ w.Exhausted p :=
      exhausted_congr (ResilienceRegistry.circuit_allowProviderCall_ne (Ne.symm hq) now) rfl
    exact ⟨fun hex => .inr (hiff.mp hex), fun hex => ⟨hiff.mpr hex, fun hall => hq hall.2⟩⟩

/-- A reported circuit is not exhausted, whatever the report, and the others are as they
were. -/
theorem exhausted_recordSuccess (w : World) (p q : String) :
    (w.recordSuccess q).Exhausted p ↔ w.Exhausted p ∧ q ≠ p := by
  by_cases hq : q = p
  · subst hq
    refine iff_of_false (fun hex => ?_) (fun h => h.2 rfl)
    have hstate := hex.1
    rw [recordSuccess, ResilienceRegistry.circuit_recordSuccess_self] at hstate
    cases hstate
  · have hiff : (w.recordSuccess q).Exhausted p ↔ w.Exhausted p :=
      exhausted_congr (ResilienceRegistry.circuit_recordSuccess_ne (Ne.symm hq)) rfl
    rw [hiff, and_iff_left hq]

theorem exhausted_recordFailure (w : World) (now : Nat) (p q : String) :
    (w.recordFailure now q).Exhausted p ↔ w.Exhausted p ∧ q ≠ p := by
  by_cases hq : q = p
  · subst hq
    refine iff_of_false (fun hex => ?_) (fun h => h.2 rfl)
    have hstate := hex.1
    rw [recordFailure, ResilienceRegistry.circuit_recordFailure_self] at hstate
    exact ProviderCircuitState.recordFailure_ne_halfOpen _ _ _ hstate
  · have hiff : (w.recordFailure now q).Exhausted p ↔ w.Exhausted p :=
      exhausted_congr (ResilienceRegistry.circuit_recordFailure_ne (Ne.symm hq) now) rfl
    rw [hiff, and_iff_left hq]

/-- What an operation does to the exhausted circuits. -/
theorem exec_exhausted {i : Nat} {w w' : World} {o : Op} {a : Ans o} (h : w.exec i o a w')
    (p : String) :
    (w'.Exhausted p → grants p ⟨o, a⟩ = true ∨
        (w.Exhausted p ∧ reports p ⟨o, a⟩ = false)) ∧
      (w.Exhausted p → reports p ⟨o, a⟩ = false →
        w'.Exhausted p ∧ grants p ⟨o, a⟩ = false) := by
  have hmoved (hiff : w'.Exhausted p ↔ w.Exhausted p ∧ reports p ⟨o, a⟩ = false)
      (hg : grants p ⟨o, a⟩ = false) :
      (w'.Exhausted p → grants p ⟨o, a⟩ = true ∨
          (w.Exhausted p ∧ reports p ⟨o, a⟩ = false)) ∧
        (w.Exhausted p → reports p ⟨o, a⟩ = false →
          w'.Exhausted p ∧ grants p ⟨o, a⟩ = false) :=
    ⟨fun hex => .inr (hiff.mp hex), fun hex hr => ⟨hiff.mpr ⟨hex, hr⟩, hg⟩⟩
  have hkept (hreg : w'.registry = w.registry) (hr : reports p ⟨o, a⟩ = false) :
      w'.Exhausted p ↔ w.Exhausted p ∧ reports p ⟨o, a⟩ = false := by
    rw [exhausted_of_registry_eq hreg, and_iff_left hr]
  cases o with
  | allowProviderCall index q =>
      obtain ⟨now, -, hnow⟩ := h
      obtain ⟨hfrom, hto⟩ := exhausted_allowProviderCall hnow p
      refine ⟨fun hex => ?_, fun hex _ => ⟨(hto hex).1, ?_⟩⟩
      · rcases hfrom hex with hgrant | hex
        · exact .inl (by simpa [grants] using hgrant)
        · exact .inr ⟨hex, rfl⟩
      · have hno := (hto hex).2
        simpa [grants] using hno
  | recordSuccess index q =>
      obtain rfl : w' = w.recordSuccess q := h
      refine hmoved ?_ rfl
      rw [exhausted_recordSuccess]
      simp [reports]
  | recordFailure index q =>
      obtain ⟨now, -, rfl⟩ := h
      refine hmoved ?_ rfl
      rw [exhausted_recordFailure]
      simp [reports]
  | tryAcquireRequest poolName =>
      obtain rfl : (w.tryAcquireRequest (some i) poolName).2 = w' := congrArg Prod.snd h
      exact hmoved (hkept (registry_acquired ..) rfl) rfl
  | tryAcquireProvider index q =>
      obtain rfl : (w.tryAcquireProvider (some i) q).2 = w' := congrArg Prod.snd h
      exact hmoved (hkept (registry_acquired ..) rfl) rfl
  | dropAdmissionGuard g =>
      obtain rfl : w' = w.drop g := h
      exact hmoved (hkept (registry_drop w g) rfl) rfl
  | _ =>
      obtain rfl : w' = w := h
      exact hmoved (hkept rfl rfl) rfl

end World

/-! ## One step of the gateway -/

variable {p : String} {y z : Requests} {l : Label Ans}

theorem FallbackProgram.follows {p : Gateway Unit} (h : FallbackProgram p) :
    p.Follows Phase.watch (fun _ s => ∀ q, s.unreported q = false) {} := by
  cases h with
  | chat context request =>
      refine Follows.bind (completeChat_follows rfl context request) ?_
      intro result s hs
      subst hs
      exact fun q => rfl
  | stream context request =>
      refine Follows.bind (completeChatStream_follows rfl context request) ?_
      intro result s hs
      cases result with
      | ok success =>
          obtain rfl := hs
          exact fun q => rfl
      | error failure =>
          obtain rfl := hs
          exact fun q => rfl

theorem calls_phased {C : Requests → Label Ans → Prop} {x z : Requests}
    (hx : x.Phased calls) (h : Reaches calls C x z) : z.Phased calls :=
  h.phased (fun _ hp => FallbackProgram.follows hp) hx

/-- The step ends a call to `p` that was let through and has not been reported: its slot
is refused or given back, or the request is dropped. -/
def Ends (p : String) (y : Requests) (l : Label Ans) : Prop :=
  ∃ i code s, y.threads[i]? = some ⟨some code, s⟩ ∧ s.unreported p = true ∧
    (l = .cancel i ∨ ∃ e, l = .act i e ∧ givesUp e = true)

/-- What a step means to the probes of `p`. -/
inductive ProbeStep (p : String) (y : Requests) (l : Label Ans) (z : Requests) : Prop
  | kept (hends : ¬Ends p y l)
      (hcount : z.count (Phase.unreported p) = y.count (Phase.unreported p))
      (hex : z.world.Exhausted p ↔ y.world.Exhausted p)
  | granted (hends : ¬Ends p y l)
      (hcount : z.count (Phase.unreported p) = y.count (Phase.unreported p) + 1)
      (hex : ¬y.world.Exhausted p)
  | reported (hends : ¬Ends p y l)
      (hcount : z.count (Phase.unreported p) + 1 = y.count (Phase.unreported p))
      (hex : ¬z.world.Exhausted p)
  | ended (hends : Ends p y l)
      (hcount : z.count (Phase.unreported p) + 1 = y.count (Phase.unreported p))
      (hex : z.world.Exhausted p ↔ y.world.Exhausted p)

theorem ends_act_iff {i : Nat} {code : Gateway Unit} {s : Phase}
    (ht : y.threads[i]? = some ⟨some code, s⟩) (e : Event Ans) :
    Ends p y (.act i e) ↔ s.unreported p = true ∧ givesUp e = true := by
  constructor
  · rintro ⟨j, code', s', hj, hun, hl | ⟨e', hl, hgive⟩⟩
    · cases hl
    · cases hl
      rw [ht] at hj
      cases hj
      exact ⟨hun, hgive⟩
  · rintro ⟨hun, hgive⟩
    exact ⟨i, code, s, ht, hun, .inr ⟨e, rfl, hgive⟩⟩

theorem ends_cancel_iff {i : Nat} {code : Gateway Unit} {s : Phase}
    (ht : y.threads[i]? = some ⟨some code, s⟩) :
    Ends p y (.cancel i) ↔ s.unreported p = true := by
  constructor
  · rintro ⟨j, code', s', hj, hun, hl | ⟨e', hl, -⟩⟩
    · cases hl
      rw [ht] at hj
      cases hj
      exact hun
    · cases hl
  · exact fun hun => ⟨i, code, s, ht, hun, .inl rfl⟩

theorem not_ends_of_ne (hc : ∀ i, l ≠ .cancel i) (ha : ∀ i e, l ≠ .act i e) : ¬Ends p y l := by
  rintro ⟨i, code, s, -, -, hl | ⟨e, hl, -⟩⟩
  · exact hc i hl
  · exact ha i e hl

theorem step_probes (hy : y.Phased calls) (h : Step calls y l z) (p : String) :
    ProbeStep p y l z := by
  cases h with
  | @spawn ts w code hp =>
      refine .kept (not_ends_of_ne (by simp) (by simp)) ?_ Iff.rfl
      exact Pool.count_spawn ts w code {} _
  | @act ts w w' i o next s a ht hw =>
      obtain ⟨s', hs', -⟩ := hy i _ s ht a
      have hwatch : (calls.watch s o a).getD s = s' := by rw [hs']; rfl
      have hcount := Pool.count_set ht ⟨some (next a), (calls.watch s o a).getD s⟩ w w'
        (Phase.unreported p)
      have hnext := Phase.unreported_watch hs' p
      obtain ⟨hfrom, hto⟩ := World.exec_exhausted hw p
      rw [hwatch] at hcount ⊢
      simp only [Option.isSome_some, Bool.true_and, hnext] at hcount
      by_cases hg : grants p ⟨o, a⟩ = true
      · have hun := Phase.not_unreported_of_grants hs' hg
        have hr : reports p ⟨o, a⟩ = false := by
          by_contra hr
          rw [not_grants_of_reports (by simpa using hr)] at hg
          cases hg
        refine .granted (fun hends => ?_) ?_ (fun hex => ?_)
        · rw [ends_act_iff ht, hun] at hends
          cases hends.1
        · simpa [hun, hg] using hcount
        · rw [(hto hex hr).2] at hg
          cases hg
      · by_cases hr : reports p ⟨o, a⟩ = true
        · have hun := Phase.unreported_of_reports hs' hr
          refine .reported (fun hends => ?_) ?_ (fun hex => ?_)
          · rw [ends_act_iff ht, not_givesUp_of_reports hr] at hends
            cases hends.2
          · simpa [hun, hg, hr] using hcount
          · rcases hfrom hex with hg' | ⟨-, hr'⟩
            · exact hg hg'
            · rw [hr] at hr'
              cases hr'
        · have hex : w'.Exhausted p ↔ w.Exhausted p :=
            ⟨fun hex => ((hfrom hex).resolve_left hg).1,
              fun hex => (hto hex (by simpa using hr)).1⟩
          by_cases hends : Ends p ⟨ts, w⟩ (.act i ⟨o, a⟩)
          · obtain ⟨hun, hgive⟩ := (ends_act_iff ht _).mp hends
            refine .ended hends ?_ hex
            simpa [hun, hg, hgive] using hcount
          · refine .kept hends ?_ hex
            rw [ends_act_iff ht] at hends
            by_cases hun : s.unreported p = true
            · have hgive : givesUp ⟨o, a⟩ = false := by
                simpa [hun] using hends
              simpa [hun, hg, hr, hgive] using hcount
            · simpa [hun, hg] using hcount
  | @leave ts w i s ht =>
      have hdone : ∀ q, s.unreported q = false := hy i _ s ht
      have hcount := Pool.count_set ht ⟨none, s⟩ w (calls.leave i w) (Phase.unreported p)
      refine .kept (not_ends_of_ne (by simp) (by simp)) ?_ Iff.rfl
      simpa [hdone p] using hcount
  | @cancel ts w i o next s ht ho =>
      have hcount := Pool.count_set ht ⟨none, s⟩ w (calls.cancel i w) (Phase.unreported p)
      have hex : (w.dropOwned i).Exhausted p ↔ w.Exhausted p :=
        World.exhausted_of_registry_eq (World.registry_dropOwned i w) p
      by_cases hun : s.unreported p = true
      · refine .ended ((ends_cancel_iff ht).mpr hun) ?_ hex
        simpa [hun] using hcount
      · refine .kept (fun hends => hun ((ends_cancel_iff ht).mp hends)) ?_ hex
        simpa [hun] using hcount
  | @ambient ts w w' hw =>
      exact .kept (not_ends_of_ne (by simp) (by simp)) rfl
        (World.exhausted_of_registry_eq (World.Ambient.registry_eq hw) p)

/-! ## Whole runs -/

/-- The step ends the last unreported call of an exhausted circuit. -/
def Leaks (p : String) (y : Requests) (l : Label Ans) : Prop :=
  y.world.Exhausted p ∧ y.count (Phase.unreported p) = 1 ∧ Ends p y l

def NoLeak (y : Requests) (l : Label Ans) : Prop := ∀ p, ¬Leaks p y l

/-- Somebody is left to report to every exhausted circuit. -/
def Attended (y : Requests) : Prop :=
  ∀ p, y.world.Exhausted p → 0 < y.count (Phase.unreported p)

/-- Nobody is. -/
def LockedOut (p : String) (y : Requests) : Prop :=
  y.world.Exhausted p ∧ y.count (Phase.unreported p) = 0

theorem Attended.step (hphase : y.Phased calls) (hy : Attended y) (h : Step calls y l z)
    (hl : NoLeak y l) : Attended z := by
  intro p hex
  cases step_probes hphase h p with
  | kept hends hcount hiff =>
      have hpos := hy p (hiff.mp hex)
      omega
  | granted hends hcount hno => omega
  | reported hends hcount hno => exact absurd hex hno
  | ended hends hcount hiff =>
      have hpos := hy p (hiff.mp hex)
      have hne : y.count (Phase.unreported p) ≠ 1 :=
        fun hone => hl p ⟨hiff.mp hex, hone, hends⟩
      omega

/-- There is no way out. -/
theorem LockedOut.step (hphase : y.Phased calls) (hy : LockedOut p y) (h : Step calls y l z) :
    LockedOut p z := by
  obtain ⟨hex, hzero⟩ := hy
  cases step_probes hphase h p with
  | kept hends hcount hiff => exact ⟨hiff.mpr hex, by omega⟩
  | granted hends hcount hno => exact absurd hex hno
  | reported hends hcount hno => omega
  | ended hends hcount hiff => omega

theorem Leaks.step (hphase : y.Phased calls) (hl : Leaks p y l) (h : Step calls y l z) :
    LockedOut p z := by
  obtain ⟨hex, hone, hends⟩ := hl
  cases step_probes hphase h p with
  | kept hno hcount hiff => exact absurd hends hno
  | granted hno hcount _ => exact absurd hends hno
  | reported hno hcount _ => exact absurd hends hno
  | ended _ hcount hiff => exact ⟨hiff.mpr hex, by omega⟩

theorem Attended.run {x z : Requests} (hphase : x.Phased calls) (hx : Attended x)
    (h : Reaches calls NoLeak x z) : Attended z := by
  induction h with
  | refl => exact hx
  | step hy hs hl ih => exact ih.step (calls_phased hphase hy) hs hl

/-- A run without a leak keeps every exhausted circuit attended, and a run with one ends
with a provider locked out. -/
theorem attended_or_lockedOut {x z : Requests} (hphase : x.Phased calls) (hx : Attended x)
    (h : Reaches calls (fun _ _ => True) x z) :
    (Reaches calls NoLeak x z ∧ Attended z) ∨ ∃ p, LockedOut p z := by
  induction h with
  | refl => exact .inl ⟨.refl, hx⟩
  | @step y z l hy hs _ ih =>
      have hyphase := calls_phased hphase hy
      rcases ih with ⟨hrun, hatt⟩ | ⟨p, hlocked⟩
      · by_cases hl : NoLeak y l
        · exact .inl ⟨hrun.step hs hl, hatt.step hyphase hs hl⟩
        · obtain ⟨p, hleak⟩ := not_forall_not.mp hl
          exact .inr ⟨p, hleak.step hyphase hs⟩
      · exact .inr ⟨p, hlocked.step hyphase hs⟩

theorem World.available_of_not_exhausted {w : World} (h : ¬w.Exhausted p) :
    w.Available p := by
  intro now hnow
  rw [ResilienceRegistry.allowProviderCall_fst, ProviderCircuitState.allowProviderCall]
  cases hs : (w.registry.circuit p).state with
  | closed => rfl
  | opened =>
      have hready : (w.registry.circuit p).readyForProbe (w.registry.breakerFor p) now = true := by
        unfold ProviderCircuitState.readyForProbe
        cases hat : (w.registry.circuit p).openedAt with
        | none => rfl
        | some opened =>
            have hle := hnow opened hat
            simp only [decide_eq_true_eq]
            omega
      simp only [hready, if_true]
  | halfOpen =>
      have hlt : (w.registry.circuit p).halfOpenProbesUsed < (w.registry.breakerFor p).maxProbes :=
        Nat.lt_of_not_le fun hle => h ⟨hs, hle⟩
      simp only [hlt, if_true]

theorem count_eq_zero_of_idle {z : Requests} (h : ∀ t ∈ z.threads, t.code = none)
    (f : Phase → Bool) : z.count f = 0 := by
  refine List.countP_eq_zero.mpr fun t ht => ?_
  rw [h t ht]
  simp

section Runs

variable (defaultPolicy : ProviderResiliencePolicy)
  (providerPolicies : String → Option ProviderResiliencePolicy) (providerNames : List String)
  (limits : AdmissionLimits)

theorem freshGateway_phased :
    (freshGateway defaultPolicy providerPolicies providerNames limits).Phased calls :=
  fun _ _ _ h => nomatch h

theorem freshGateway_attended :
    Attended (freshGateway defaultPolicy providerPolicies providerNames limits) := by
  intro p hex
  have hstate := hex.1
  rw [show (freshGateway defaultPolicy providerPolicies providerNames limits).world.registry =
    .new defaultPolicy providerPolicies providerNames from rfl,
    ResilienceRegistry.circuit_new] at hstate
  cases hstate

end Runs

/-- A call of `complete_chat` that runs alone, at `t`. -/
theorem Reaches.chatCall {x : Requests} {ts : List (Thread Ans Phase)} {w : World} {i : Nat}
    (hi : ts.length = i) (outside : (o : Op) → Ans o) {t : Nat} (ht : t ≤ w.time)
    (context : FallbackContext) (request : ChatCompletionRequest)
    (hx : Reaches calls (fun _ _ => True) x ⟨ts, w⟩) :
    ∃ s, Reaches calls (fun _ _ => True) x
      ⟨ts ++ [⟨none, s⟩], (((completeChat context request).bind fun _ => .ret ()).run
        (World.handle i outside fun _ => t) w).state.disown i⟩ := by
  subst hi
  exact Reaches.call (E := calls) (I := fun w => t ≤ w.time) (.chat context request)
    (fun o _ hw => World.exec_handle ts.length outside o hw) ht hx

/-- The candidates both answer `plainRequest` alike. -/
def alike (answer : Except ProviderError ChatCompletionResponse) : (o : Op) → Ans o :=
  twoCandidates (fun _ => true) (fun _ => answer) fun _ => .error .timeout

/-- The world after a call with `plainRequest` at `t`. -/
def World.afterCall (w : World) (i t : Nat)
    (answer : Except ProviderError ChatCompletionResponse) : World :=
  (((completeChat plainContext plainRequest).bind fun _ => .ret ()).run
    (World.handle i (alike answer) fun _ => t) w).state.disown i

/-- A gateway whose circuits open at a first failure. -/
def brittleGateway : Requests :=
  freshGateway { breaker := { failureThreshold := 1 } } (fun _ => none) [] {}

/-- A failed call opens the circuits, and they cool down. -/
def cooledDown : World :=
  { brittleGateway.world.afterCall 0 0 (.error .providerUnavailable) with time := 5000000000 }

def servedResponse : ChatCompletionResponse := ⟨"id", "chat.completion", 0, "m", "p", [], {}⟩

/-- The next call is a probe of the first candidate. -/
def probed (answer : Except ProviderError ChatCompletionResponse) : World :=
  cooledDown.afterCall 1 5000000000 answer

theorem probed_reached (answer : Except ProviderError ChatCompletionResponse) :
    ∃ ts, Reaches calls (fun _ _ => True) brittleGateway ⟨ts, probed answer⟩ ∧
      ∀ t ∈ ts, t.code = none := by
  obtain ⟨s₁, h₁⟩ := Reaches.chatCall (i := 0) rfl (alike (.error .providerUnavailable))
    (Nat.zero_le _) plainContext plainRequest (.refl (x := brittleGateway))
  have htick := h₁.step (.ambient (.tick (t := 5000000000) (by decide +kernel))) trivial
  obtain ⟨s₂, h₂⟩ := Reaches.chatCall (i := 1) (t := 5000000000) rfl (alike answer)
    (Nat.le_refl _) plainContext plainRequest htick
  exact ⟨_, h₂, by simp⟩

theorem auth_failure_exhausts :
    (probed (.error .authenticationFailed)).Exhausted "mock-primary" := by
  decide +kernel

/-- Only a probe that was granted exhausts a circuit. -/
theorem exhausted_run {α : Type} (program : Gateway α) {i t : Nat} (outside : (o : Op) → Ans o)
    {w : World} (ht : t ≤ w.time)
    (h : (program.run (World.handle i outside fun _ => t) w).state.Exhausted p) :
    w.Exhausted p ∨
      ∃ e ∈ (program.run (World.handle i outside fun _ => t) w).trace, grants p e = true := by
  induction program generalizing w with
  | ret a => exact .inl h
  | op o next ih =>
      obtain ⟨hexec, ht'⟩ := World.exec_handle i outside o ht
      rcases ih _ ht' h with hex | ⟨e, he, hgrants⟩
      · rcases (World.exec_exhausted hexec p).1 hex with hgrants | ⟨hex, -⟩
        · exact .inr ⟨_, List.mem_cons_self, hgrants⟩
        · exact .inl hex
      · exact .inr ⟨e, List.mem_cons_of_mem _ he, hgrants⟩

/-- Nothing but the candidates is asked for a probe. -/
def candidatesOnly (e : Event Ans) : Bool :=
  match e.op with
  | .allowProviderCall _ q => q == "mock-primary" || q == "mock-fallback"
  | _ => true

theorem exhausted_afterCall {w : World} {i t : Nat} (ht : t ≤ w.time)
    {answer : Except ProviderError ChatCompletionResponse}
    (honly : (((completeChat plainContext plainRequest).bind fun _ => .ret ()).run
      (World.handle i (alike answer) fun _ => t) w).trace.all candidatesOnly = true)
    (h : (w.afterCall i t answer).Exhausted p) :
    w.Exhausted p ∨ p = "mock-primary" ∨ p = "mock-fallback" := by
  rcases exhausted_run _ (alike answer) ht h with hex | ⟨⟨o, a⟩, he, hgrants⟩
  · exact .inl hex
  · have hnames := List.all_eq_true.mp honly _ he
    cases o <;> simp_all [grants, candidatesOnly]

/-- A served probe closes the first circuit, and the second one stays open. -/
theorem served_not_exhausted (p : String) : ¬(probed (.ok servedResponse)).Exhausted p := by
  intro hex
  have hprobe : cooledDown.Exhausted p ∨ p = "mock-primary" ∨ p = "mock-fallback" :=
    exhausted_afterCall (by decide +kernel) (by decide +kernel) hex
  have hfirst (hex : cooledDown.Exhausted p) :
      brittleGateway.world.Exhausted p ∨ p = "mock-primary" ∨ p = "mock-fallback" :=
    exhausted_afterCall (i := 0) (Nat.zero_le _) (by decide +kernel)
      ((World.exhausted_of_registry_eq rfl p).mp hex)
  have hfresh : ¬brittleGateway.world.Exhausted p := fun hex => absurd hex.1 nofun
  rcases hprobe.elim (fun hex => (hfirst hex).resolve_left hfresh) id with rfl | rfl <;>
    revert hex <;> decide +kernel

section Runs

variable (defaultPolicy : ProviderResiliencePolicy)
  (providerPolicies : String → Option ProviderResiliencePolicy) (providerNames : List String)
  (limits : AdmissionLimits)

/-- When no call is in progress, every provider is available (or will be, after its
cool-down) if and only if no step of the run was a leak. -/
theorem probes_unleaked_iff {z : Requests}
    (hrun : Reaches calls (fun _ _ => True)
      (freshGateway defaultPolicy providerPolicies providerNames limits) z)
    (hidle : ∀ t ∈ z.threads, t.code = none) :
    (∀ p, ¬z.world.Exhausted p ∧ z.world.Available p) ↔
      Reaches calls NoLeak
        (freshGateway defaultPolicy providerPolicies providerNames limits) z := by
  have hphase := freshGateway_phased defaultPolicy providerPolicies providerNames limits
  have hfresh := freshGateway_attended defaultPolicy providerPolicies providerNames limits
  constructor
  · intro hfine
    rcases attended_or_lockedOut hphase hfresh hrun with ⟨hnoleak, -⟩ | ⟨p, hlocked⟩
    · exact hnoleak
    · exact absurd hlocked.1 (hfine p).1
  · intro hnoleak p
    have hatt := Attended.run hphase hfresh hnoleak
    have hno : ¬z.world.Exhausted p := by
      intro hex
      have hpos := hatt p hex
      rw [count_eq_zero_of_idle hidle] at hpos
      omega
    exact ⟨hno, World.available_of_not_exhausted hno⟩

end Runs

/-- A probe that is served is no leak, and one that fails with an error that is not retryable
is one. -/
theorem probes_unleaked_iff_probed :
    ((cooledDown.registry.circuit "mock-primary").state = .opened ∧
      ((probed (.ok servedResponse)).registry.circuit "mock-primary").state = .closed ∧
      ∃ ts, Reaches calls NoLeak brittleGateway ⟨ts, probed (.ok servedResponse)⟩) ∧
    ∃ ts, Reaches calls (fun _ _ => True) brittleGateway
        ⟨ts, probed (.error .authenticationFailed)⟩ ∧
      ¬Reaches calls NoLeak brittleGateway ⟨ts, probed (.error .authenticationFailed)⟩ := by
  constructor
  · obtain ⟨ts, hrun, hidle⟩ := probed_reached (.ok servedResponse)
    refine ⟨by decide +kernel, by decide +kernel, ts, ?_⟩
    exact (probes_unleaked_iff _ _ _ _ hrun hidle).mp fun p =>
      ⟨served_not_exhausted p, World.available_of_not_exhausted (served_not_exhausted p)⟩
  · obtain ⟨ts, hrun, hidle⟩ := probed_reached (.error .authenticationFailed)
    refine ⟨ts, hrun, fun hnoleak => ?_⟩
    exact ((probes_unleaked_iff _ _ _ _ hrun hidle).mpr hnoleak "mock-primary").1
      auth_failure_exhausts

theorem auth_failure_leaks_probe :
    ¬ ∀ (defaultPolicy : ProviderResiliencePolicy)
        (providerPolicies : String → Option ProviderResiliencePolicy)
        (providerNames : List String) (limits : AdmissionLimits) (z : Requests),
      Reaches calls (fun _ _ => True)
        (freshGateway defaultPolicy providerPolicies providerNames limits) z →
      (∀ t ∈ z.threads, t.code = none) →
      ∀ p, ¬z.world.Exhausted p ∧ z.world.Available p := by
  intro hclaim
  obtain ⟨ts, hrun, hidle⟩ := probed_reached (.error .authenticationFailed)
  exact (hclaim _ _ _ _ _ hrun hidle "mock-primary").1 auth_failure_exhausts

end RustyGate
