/-
What a request holds while it runs.

A request holds at most one request guard, and it is in one of four phases with respect
to the provider it deals with: nothing, a call that the circuit has let through, a slot
for it, or a slot of a call that has been reported.  `Phase.watch` follows the phase
through the operations of the request and has no move for an operation that must not
happen: a provider is called only with a slot, a report is made only of a call that was
let through and has not been reported, and a guard is dropped only by its holder.

The fallback loops follow the watcher.  It is proved once, of `search` and its own
watcher, and carried over to both loops.
-/
import RustyGate.Routing.Search

namespace RustyGate

open Effect Effect.Program Gateway

inductive CallPhase where
  | idle
  /-- The circuit of `p` has let a call through. -/
  | granted (p : String)
  /-- There is a slot for it. -/
  | admitted (p : String) (g : GuardId)
  /-- It has been reported. -/
  | settled (p : String) (g : GuardId)
  deriving DecidableEq, Repr

/-- The events that matter to the phase. -/
inductive Move where
  | allow (p : String) (allowed : Bool)
  | reserve (p : String) (answer : Except AdmissionRejection GuardId)
  | call (p : String)
  | poll (p : String)
  | report (p : String)
  | drop (g : GuardId)

/-- A stream is polled before the call is reported and after. -/
def CallPhase.next : CallPhase → Move → Option CallPhase
  | idle, .allow p allowed => some (if allowed then granted p else idle)
  | granted q, .reserve p (.ok g) => if q = p then some (admitted q g) else none
  | granted q, .reserve p (.error _) => if q = p then some idle else none
  | admitted q g, .call p => if q = p then some (admitted q g) else none
  | admitted q g, .poll p => if q = p then some (admitted q g) else none
  | settled q g, .poll p => if q = p then some (settled q g) else none
  | admitted q g, .report p => if q = p then some (settled q g) else none
  | admitted _ g, .drop g' => if g = g' then some idle else none
  | settled _ g, .drop g' => if g = g' then some idle else none
  | _, _ => none

structure Phase where
  /-- The guard of the request, behind the pool it was admitted to. -/
  requestGuard : Option (Option String × GuardId) := none
  call : CallPhase := .idle
  deriving DecidableEq, Repr

namespace Phase

variable {s s' : Phase} {p : String} {g : GuardId}

def move (s : Phase) (m : Move) : Option Phase :=
  (s.call.next m).map fun call => { s with call := call }

/-- The guard of the provider is dropped before that of the request. -/
def dropGuard (s : Phase) (g : GuardId) : Option Phase :=
  if s.call = .idle then
    if s.requestGuard.map Prod.snd = some g then some { s with requestGuard := none } else none
  else s.move (.drop g)

def acquireRequest (s : Phase) (poolName : Option String) :
    Except AdmissionRejection GuardId → Option Phase
  | .ok g =>
      if s.requestGuard = none then some { s with requestGuard := some (poolName, g) } else none
  | .error _ => some s

def watch : Phase → (o : Op) → Ans o → Option Phase
  | s, .allowProviderCall _ p, allowed => s.move (.allow p allowed)
  | s, .tryAcquireProvider _ p, answer => s.move (.reserve p answer)
  | s, .chatCompletion _ p _, _ => s.move (.call p)
  | s, .chatCompletionStream _ p _, _ => s.move (.call p)
  | s, .pollStream p, _ => s.move (.poll p)
  | s, .recordSuccess _ p, _ => s.move (.report p)
  | s, .recordFailure _ p, _ => s.move (.report p)
  | s, .dropAdmissionGuard g, _ => s.dropGuard g
  | s, .tryAcquireRequest poolName, answer => s.acquireRequest poolName answer
  | s, _, _ => some s

/-- A search that keeps the slot of a served call, or gives it back. -/
def searchWatch {α : Type} (keep : Bool) : Phase → (o : SearchOp) → SearchAns α o → Option Phase
  | s, .allow _ p, allowed => s.move (.allow p allowed)
  | s, .reserve _ p, answer => s.move (.reserve p answer)
  | s, .call _ entry, _ => s.move (.call entry.name)
  | s, .won _ p, _ => s.move (.report p)
  | s, .lost _ p, _ => s.move (.report p)
  | s, .backoff _ _, _ => some s
  | s, .quit _, _ => some s
  | s, .handOver g, _ => if keep then some s else s.move (.drop g)
  | s, .release g, _ => s.move (.drop g)

/-! ## Moves -/

theorem guarded {c : Prop} [Decidable c] (hc : c) (call : CallPhase) (f : CallPhase → Phase) :
    (if c then some call else none).map f = some (f call) := by
  rw [if_pos hc]
  rfl

theorem guarded_inv {c : Prop} [Decidable c] {call : CallPhase} {f : CallPhase → Phase}
    {s' : Phase} (h : (if c then some call else none).map f = some s') : c ∧ s' = f call := by
  by_cases hc : c
  · rw [if_pos hc] at h
    exact ⟨hc, (Option.some.inj h).symm⟩
  · rw [if_neg hc] at h
    cases h

theorem move_allow (h : s.call = .idle) (p : String) (allowed : Bool) :
    s.move (.allow p allowed) =
      some { s with call := if allowed then .granted p else .idle } := by
  rw [move, h]
  rfl

theorem move_reserve_ok (h : s.call = .granted p) (g : GuardId) :
    s.move (.reserve p (.ok g)) = some { s with call := .admitted p g } := by
  rw [move, h]
  exact guarded rfl _ _

theorem move_reserve_error (h : s.call = .granted p) (rejection : AdmissionRejection) :
    s.move (.reserve p (.error rejection)) = some { s with call := .idle } := by
  rw [move, h]
  exact guarded rfl _ _

theorem move_call (h : s.call = .admitted p g) :
    s.move (.call p) = some s := by
  rw [move, h]
  exact (guarded rfl _ _).trans (by rw [← h])

theorem move_poll_admitted (h : s.call = .admitted p g) :
    s.move (.poll p) = some s := by
  rw [move, h]
  exact (guarded rfl _ _).trans (by rw [← h])

theorem move_poll_settled (h : s.call = .settled p g) :
    s.move (.poll p) = some s := by
  rw [move, h]
  exact (guarded rfl _ _).trans (by rw [← h])

theorem move_report (h : s.call = .admitted p g) :
    s.move (.report p) = some { s with call := .settled p g } := by
  rw [move, h]
  exact guarded rfl _ _

theorem move_drop_admitted (h : s.call = .admitted p g) :
    s.move (.drop g) = some { s with call := .idle } := by
  rw [move, h]
  exact guarded rfl _ _

theorem move_drop_settled (h : s.call = .settled p g) :
    s.move (.drop g) = some { s with call := .idle } := by
  rw [move, h]
  exact guarded rfl _ _

/-! Each move has one kind of phase it can be made in. -/

theorem move_allow_inv {allowed : Bool} (h : s.move (.allow p allowed) = some s') :
    s.call = .idle ∧ s' = { s with call := if allowed then .granted p else .idle } := by
  obtain ⟨requestGuard, call⟩ := s
  cases call with
  | idle => exact ⟨rfl, (Option.some.inj h).symm⟩
  | _ => cases h

theorem move_reserve_ok_inv (h : s.move (.reserve p (.ok g)) = some s') :
    s.call = .granted p ∧ s' = { s with call := .admitted p g } := by
  obtain ⟨requestGuard, call⟩ := s
  cases call with
  | granted q =>
      obtain ⟨rfl, rfl⟩ := guarded_inv h
      exact ⟨rfl, rfl⟩
  | _ => cases h

theorem move_reserve_error_inv {rejection : AdmissionRejection}
    (h : s.move (.reserve p (.error rejection)) = some s') :
    s.call = .granted p ∧ s' = { s with call := .idle } := by
  obtain ⟨requestGuard, call⟩ := s
  cases call with
  | granted q =>
      obtain ⟨rfl, rfl⟩ := guarded_inv h
      exact ⟨rfl, rfl⟩
  | _ => cases h

theorem move_call_inv (h : s.move (.call p) = some s') :
    s' = s ∧ ∃ g, s.call = .admitted p g := by
  obtain ⟨requestGuard, call⟩ := s
  cases call with
  | admitted q g =>
      obtain ⟨rfl, rfl⟩ := guarded_inv h
      exact ⟨rfl, g, rfl⟩
  | _ => cases h

theorem move_poll_inv (h : s.move (.poll p) = some s') :
    s' = s ∧ ∃ g, s.call = .admitted p g ∨ s.call = .settled p g := by
  obtain ⟨requestGuard, call⟩ := s
  cases call with
  | admitted q g =>
      obtain ⟨rfl, rfl⟩ := guarded_inv h
      exact ⟨rfl, g, .inl rfl⟩
  | settled q g =>
      obtain ⟨rfl, rfl⟩ := guarded_inv h
      exact ⟨rfl, g, .inr rfl⟩
  | _ => cases h

theorem move_report_inv (h : s.move (.report p) = some s') :
    ∃ g, s.call = .admitted p g ∧ s' = { s with call := .settled p g } := by
  obtain ⟨requestGuard, call⟩ := s
  cases call with
  | admitted q g =>
      obtain ⟨rfl, rfl⟩ := guarded_inv h
      exact ⟨g, rfl, rfl⟩
  | _ => cases h

theorem move_drop_inv (h : s.move (.drop g) = some s') :
    (∃ p, s.call = .admitted p g ∨ s.call = .settled p g) ∧ s' = { s with call := .idle } := by
  obtain ⟨requestGuard, call⟩ := s
  cases call with
  | admitted q g' =>
      obtain ⟨rfl, rfl⟩ := guarded_inv h
      exact ⟨⟨q, .inl rfl⟩, rfl⟩
  | settled q g' =>
      obtain ⟨rfl, rfl⟩ := guarded_inv h
      exact ⟨⟨q, .inr rfl⟩, rfl⟩
  | _ => cases h

/-- A guard that is dropped is the one of the request, or else the one of the provider. -/
theorem dropGuard_inv (h : s.dropGuard g = some s') :
    (s.call = .idle ∧ (∃ poolName, s.requestGuard = some (poolName, g)) ∧
        s' = { s with requestGuard := none }) ∨
      ((∃ p, s.call = .admitted p g ∨ s.call = .settled p g) ∧
        s' = { s with call := .idle }) := by
  unfold dropGuard at h
  by_cases hidle : s.call = .idle
  · rw [if_pos hidle] at h
    by_cases hg : s.requestGuard.map Prod.snd = some g
    · rw [if_pos hg] at h
      obtain ⟨⟨poolName, g⟩, hheld, rfl⟩ := Option.map_eq_some_iff.mp hg
      exact .inl ⟨hidle, ⟨poolName, hheld⟩, (Option.some.inj h).symm⟩
    · rw [if_neg hg] at h
      cases h
  · rw [if_neg hidle] at h
    exact .inr (move_drop_inv h)

theorem acquireRequest_ok_inv {poolName : Option String}
    (h : s.acquireRequest poolName (.ok g) = some s') :
    s.requestGuard = none ∧ s' = { s with requestGuard := some (poolName, g) } := by
  simp only [acquireRequest] at h
  by_cases hnone : s.requestGuard = none
  · rw [if_pos hnone] at h
    exact ⟨hnone, (Option.some.inj h).symm⟩
  · rw [if_neg hnone] at h
    cases h

theorem dropGuard_request (poolName : Option String) (g : GuardId) :
    dropGuard { requestGuard := some (poolName, g) } g = some {} := by
  rw [dropGuard, if_pos rfl]
  exact if_pos rfl

theorem dropGuard_of_move (h : s.move (.drop g) = some s') :
    s.dropGuard g = some s' := by
  rw [dropGuard, if_neg, h]
  intro hidle
  rw [move, hidle] at h
  cases h

end Phase

/-! ## The search -/

section Search

variable {α : Type} {keep : Bool}

/-- How the phase is left by the retries of a candidate: unchanged, or reported, and
reported if they found something. -/
def LeavesRetries (s : Phase) (entry : ProviderEntry) (guard : GuardId) :
    RetryExit (Found α) → Phase → Prop
  | .returned (.ok found), s' =>
      found.guard = guard ∧ found.entry = entry ∧
        s' = { s with call := .settled entry.name guard }
  | _, s' => s' = s ∨ s' = { s with call := .settled entry.name guard }

theorem searchRetries_follows {s : Phase} {entry : ProviderEntry} {guard : GuardId}
    (hs : s.call = .admitted entry.name guard) (index : Nat) (more : Bool) (left retry : Nat)
    (last : Option ProviderError) (log : AttemptLog) :
    Follows (Phase.searchWatch keep) (LeavesRetries s entry guard) s
      (searchRetries (α := α) entry index guard more left retry last log) := by
  rw [searchRetries]
  simp only [bind_eq_bind, perform_bind, pure_eq_ret]
  intro answer
  obtain ⟨outcome, latencyMs⟩ := answer
  refine ⟨s, Phase.move_call hs, ?_⟩
  cases outcome with
  | served value => exact fun _ => ⟨_, Phase.move_report hs, rfl, rfl, rfl⟩
  | empty =>
      refine fun _ => ⟨s, rfl, ?_⟩
      cases more <;> exact Or.inl rfl
  | failed error =>
      simp only
      cases fallbackDecision error with
      | stop => exact fun _ => ⟨s, rfl, Or.inl rfl⟩
      | tryNextProvider =>
          cases left with
          | zero => exact fun _ => ⟨_, Phase.move_report hs, Or.inr rfl⟩
          | succ left =>
              exact fun _ => ⟨s, rfl,
                searchRetries_follows hs index more left (retry + 1) (some error) _⟩

/-- A search starts and ends idle, unless it keeps the slot of what it found. -/
def LeavesSearch (keep : Bool) (s : Phase) :
    Except FallbackError (Found α) → Phase → Prop
  | .ok found, s' =>
      if keep then s' = { s with call := .settled found.entry.name found.guard } else s' = s
  | .error _, s' => s' = s

theorem search_follows {s : Phase} (hs : s.call = .idle) (budget : String → Nat)
    (candidates : List ProviderEntry) (index : Nat) (log : AttemptLog)
    (rejection : Option AdmissionRejection) :
    Follows (Phase.searchWatch keep) (LeavesSearch keep s) s
      (search (α := α) budget candidates index log rejection) := by
  induction candidates generalizing index log rejection with
  | nil => cases rejection <;> exact rfl
  | cons entry rest ih =>
      rw [search]
      simp only [bind_eq_bind, perform_bind, pure_eq_ret]
      have hidle : { s with call := .idle } = s := by rw [← hs]
      intro allowed
      refine ⟨_, Phase.move_allow hs entry.name allowed, ?_⟩
      cases allowed with
      | false =>
          rw [if_neg Bool.false_ne_true, hidle]
          exact ih (index + 1) log rejection
      | true =>
          intro reserved
          cases reserved with
          | error rejected =>
              refine ⟨_, Phase.move_reserve_error rfl rejected, ?_⟩
              rw [hidle]
              exact ih (index + 1) log (some rejected)
          | ok guard =>
              refine ⟨_, Phase.move_reserve_ok rfl guard, ?_⟩
              refine Follows.bind (searchRetries_follows rfl index _ _ _ _ _) ?_
              intro exit s' hexit
              have hrelease : s' = { s with call := .admitted entry.name guard } ∨
                  s' = { s with call := .settled entry.name guard } →
                    s'.move (.drop guard) = some s := by
                rintro (rfl | rfl)
                · rw [Phase.move_drop_admitted rfl, ← hidle]
                · rw [Phase.move_drop_settled rfl, ← hidle]
              cases exit with
              | returned result =>
                  cases result with
                  | ok found =>
                      obtain ⟨hguard, hentry, hs'⟩ := hexit
                      intro _
                      cases keep with
                      | true =>
                          refine ⟨s', rfl, ?_⟩
                          show s' = { s with call := .settled found.entry.name found.guard }
                          rw [hs', hguard, hentry]
                      | false => exact ⟨s, hrelease (.inr hs'), rfl⟩
                  | error error => exact fun _ => ⟨s, hrelease hexit, rfl⟩
              | left last log' =>
                  cases last with
                  | none => exact fun _ => ⟨s, hrelease hexit, ih (index + 1) log' rejection⟩
                  | some error =>
                      refine fun _ => ⟨s, hrelease hexit, ?_⟩
                      simp only
                      split
                      · exact rfl
                      · exact ih (index + 1) log' rejection

end Search

/-! ## The fallback loops -/

section Loops

variable {α : Type} (c : FallbackCall) {keep : Bool}

/-- An operation of no concern to the phase. -/
def Op.isNeutral : Op → Bool
  | .allowProviderCall _ _ | .tryAcquireProvider _ _ | .chatCompletion _ _ _
  | .chatCompletionStream _ _ _ | .pollStream _ | .recordSuccess _ _ | .recordFailure _ _
  | .dropAdmissionGuard _ | .tryAcquireRequest _ => false
  | _ => true

theorem Phase.watch_neutral {o : Op} (ho : o.isNeutral = true) (s : Phase) (a : Ans o) :
    s.watch o a = some s := by
  cases o <;> first | rfl | cases ho

theorem follows_neutral {β : Type} {p : Gateway β} (hp : p.Performs fun o => o.isNeutral = true)
    (s : Phase) : Follows Phase.watch (fun _ s' => s' = s) s p := by
  induction p with
  | ret a => rfl
  | op o next ih => exact fun a => ⟨s, Phase.watch_neutral hp.1 s a, ih a (hp.2 a)⟩

/-- The implementation of a step follows the phase as the step does. -/
theorem implement_follows {call : Site → ProviderEntry → Gateway (Outcome α × UInt64)}
    {wonEnd : String → Gateway Unit} {handOver : GuardId → Gateway Unit}
    (hcall : ∀ (s : Phase) site entry, s.move (.call entry.name) = some s →
      Follows Phase.watch (fun _ s' => s' = s) s (call site entry))
    (hwon : ∀ provider, (wonEnd provider).Performs fun o => o.isNeutral = true)
    (hover : ∀ (s s' : Phase) guard,
      Phase.searchWatch (α := α) keep s (.handOver guard) () = some s' →
        Follows Phase.watch (fun _ t => t = s') s (handOver guard))
    (s : Phase) (o : SearchOp)
    (ho : ∀ a : SearchAns α o, ∃ s', Phase.searchWatch keep s o a = some s') :
    Follows Phase.watch (fun a s' => Phase.searchWatch keep s o a = some s') s
      (implement c call wonEnd handOver o) := by
  cases o with
  | allow index provider =>
      intro allowed
      obtain ⟨s', hs'⟩ := ho allowed
      refine ⟨s', hs', ?_⟩
      cases allowed with
      | true => exact hs'
      | false => exact fun _ => ⟨s', rfl, hs'⟩
  | reserve index provider =>
      simp only [implement, bind_eq_bind, perform_bind]
      intro reserved
      obtain ⟨s', hs'⟩ := ho reserved
      refine ⟨s', hs', ?_⟩
      cases reserved with
      | error rejected => exact hs'
      | ok guard =>
          refine Follows.bind
            (follows_neutral (recordFallback_performs (fun _ _ => rfl) c.policy index) s') ?_
          rintro _ t rfl
          exact hs'
  | call site entry =>
      obtain ⟨s', hs'⟩ := ho (.empty, 0)
      obtain ⟨rfl, -⟩ := Phase.move_call_inv hs'
      exact (hcall s' site entry hs').mono fun a t ht => ht ▸ hs'
  | won index provider =>
      simp only [implement, bind_eq_bind, perform_bind]
      intro _
      obtain ⟨s', hs'⟩ := ho ()
      refine ⟨s', hs', fun _ => ⟨s', rfl, ?_⟩⟩
      refine (follows_neutral ?_ s').mono fun _ t ht => ht ▸ hs'
      exact (recordPrefixAffinitySelection_performs (fun _ _ => rfl) ..).bind fun _ => hwon provider
  | backoff site provider => exact fun _ => ⟨s, rfl, fun _ => ⟨s, rfl, rfl⟩⟩
  | lost index provider =>
      intro _
      obtain ⟨s', hs'⟩ := ho ()
      exact ⟨s', hs', fun _ => ⟨s', rfl, hs'⟩⟩
  | quit provider => exact fun _ => ⟨s, rfl, rfl⟩
  | handOver guard =>
      obtain ⟨s', hs'⟩ := ho ()
      exact (hover s s' guard hs').mono fun _ t ht => ht ▸ hs'
  | release guard =>
      intro _
      obtain ⟨s', hs'⟩ := ho ()
      exact ⟨s', Phase.dropGuard_of_move hs', hs'⟩

theorem chatImpl_follows (s : Phase) (o : SearchOp)
    (ho : ∀ a : SearchAns ChatCompletionResponse o, ∃ s', Phase.searchWatch false s o a = some s') :
    Follows Phase.watch (fun a s' => Phase.searchWatch false s o a = some s') s
      (chatImpl c o) := by
  apply implement_follows c _ _ _ s o ho
  · intro s site entry hmove
    refine fun _ => ⟨s, rfl, fun result => ⟨s, hmove, fun latencyMs => ⟨s, rfl, ?_⟩⟩⟩
    cases result <;> rfl
  · exact fun provider => ⟨rfl, fun _ => trivial⟩
  · exact fun s s' guard hs' => fun _ => ⟨s', Phase.dropGuard_of_move hs', rfl⟩

theorem streamImpl_follows (s : Phase) (o : SearchOp)
    (ho : ∀ a : SearchAns Opened o, ∃ s', Phase.searchWatch true s o a = some s') :
    Follows Phase.watch (fun a s' => Phase.searchWatch true s o a = some s') s
      (streamImpl c o) := by
  apply implement_follows c _ _ _ s o ho
  · intro s site entry hmove
    obtain ⟨-, g, hg⟩ := Phase.move_call_inv hmove
    refine fun _ => ⟨s, rfl, fun result => ⟨s, hmove, ?_⟩⟩
    cases result with
    | error error => exact fun _ => ⟨s, rfl, rfl⟩
    | ok opened =>
        obtain ⟨context, stream⟩ := opened
        refine fun _ => ⟨s, Phase.move_poll_admitted hg, fun latencyMs => ⟨s, rfl, ?_⟩⟩
        simp only
        rcases stream.next with ⟨_ | _ | _, rest⟩
        · exact rfl
        · exact rfl
        · exact fun _ => ⟨s, rfl, rfl⟩
  · exact fun provider => trivial
  · exact fun s s' guard hs' => Option.some.inj hs'

/-- `complete_chat` holds nothing at its end that it did not hold before. -/
theorem completeChat_follows {s : Phase} (hs : s.call = .idle) (context : FallbackContext)
    (request : ChatCompletionRequest) :
    Follows Phase.watch (fun _ s' => s' = s) s (completeChat context request) := by
  rw [completeChat_eq]
  refine fun _ => ⟨s, rfl, fun selection => ⟨s, rfl, fun _ => ⟨s, rfl, ?_⟩⟩⟩
  show Follows _ _ _ (Program.bind (interp _ _) _)
  refine Follows.bind (Follows.interp (chatImpl_follows _) (search_follows hs ..)) ?_
  intro result s' hs'
  cases result with
  | ok found => exact hs'
  | error failure => exact hs'

/-- `complete_chat_stream` ends like that too, except that a stream comes with a slot. -/
def LeavesStream (s : Phase) : Except FallbackError StreamingFallbackSuccess → Phase → Prop
  | .ok success, s' =>
      s' = { s with call := .settled success.providerName success.admissionGuard }
  | .error _, s' => s' = s

theorem completeChatStream_follows {s : Phase} (hs : s.call = .idle) (context : FallbackContext)
    (request : ChatCompletionRequest) :
    Follows Phase.watch (LeavesStream s) s (completeChatStream context request) := by
  rw [completeChatStream_eq]
  refine fun _ => ⟨s, rfl, fun selection => ⟨s, rfl, fun _ => ⟨s, rfl, ?_⟩⟩⟩
  show Follows _ _ _ (Program.bind (interp _ _) _)
  refine Follows.bind (Follows.interp (streamImpl_follows _) (search_follows hs ..)) ?_
  intro result s' hs'
  cases result with
  | ok found => exact hs'
  | error failure => exact hs'

end Loops
end RustyGate
