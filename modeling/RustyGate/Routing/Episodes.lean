/-
The calls of one candidate.

`Call` is a provider call with the error it is recorded with.  An `Episode` is what a
candidate may get: some retryable failures, and a call that ends them.  It also says what is
reported to the circuit breaker, and its `Verdict` how the calls end.  The retry loop makes an
episode for any circuits, limits and providers, and notes down its calls in their order
(`searchRetries_episode`).  Where the answers are given, one for each operation, `verdict` is
its verdict.
-/
import RustyGate.Routing.Search

namespace RustyGate

open Effect Effect.Program

/-- A provider call that was made, and the error it counts as. -/
structure Call where
  site : Site
  provider : String
  error : Option ProviderError
  deriving DecidableEq, Repr

namespace Call

/-- The attempt records this call. -/
structure Matches (c : Call) (a : ProviderAttempt) : Prop where
  provider : a.providerName = c.provider
  isFallback : a.isFallback = decide (0 < c.site.candidate)
  success : a.success = c.error.isNone
  errorCategory : a.errorCategory = c.error.map providerErrorCategory

/-- The call failed with an error after which another provider may be tried. -/
def retryable (c : Call) : Bool :=
  c.error.any fun e => fallbackDecision e == .tryNextProvider

end Call

/-- What the circuit breaker is told of a candidate. -/
inductive Report where
  | success (index : Nat) (provider : String)
  | failure (index : Nat) (provider : String)
  deriving DecidableEq, Repr

variable {log : AttemptLog}

theorem matches_push {calls : List Call} (h : List.Forall₂ Call.Matches calls log.attempts)
    (site : Site) (provider : String) (latencyMs : UInt64) (error : Option ProviderError) :
    List.Forall₂ Call.Matches (calls ++ [⟨site, provider, error⟩])
      (log.push provider (0 < site.candidate) latencyMs error).attempts :=
  List.rel_append h (List.Forall₂.cons ⟨rfl, rfl, rfl, rfl⟩ .nil)

/-! ## The log -/

namespace AttemptLog

/-- Note down a call and the time it took. -/
def record (log : AttemptLog) (call : Call × UInt64) : AttemptLog :=
  log.push call.1.provider (0 < call.1.site.candidate) call.2 call.1.error

def recordAll (log : AttemptLog) (calls : List (Call × UInt64)) : AttemptLog :=
  calls.foldl record log

theorem recordAll_cons (log : AttemptLog) (call : Call × UInt64) (calls : List (Call × UInt64)) :
    log.recordAll (call :: calls) = (log.record call).recordAll calls := rfl

theorem recordAll_append (log : AttemptLog) (calls later : List (Call × UInt64)) :
    log.recordAll (calls ++ later) = (log.recordAll calls).recordAll later :=
  List.foldl_append

theorem recordAll_matches {prior : List Call} (h : List.Forall₂ Call.Matches prior log.attempts)
    (calls : List (Call × UInt64)) :
    List.Forall₂ Call.Matches (prior ++ calls.map (·.1)) (log.recordAll calls).attempts := by
  induction calls generalizing log prior with
  | nil => rwa [List.map_nil, List.append_nil]
  | cons call calls ih =>
      rw [recordAll_cons, List.map_cons, List.append_cons]
      exact ih (matches_push h call.1.site call.1.provider call.2 call.1.error)

/-- The attempts are numbered from one, as far as the counter goes. -/
structure Numbered (log : AttemptLog) : Prop where
  counter : log.attemptOrder = min log.attempts.length (2 ^ 32 - 1)
  orders : log.attempts.map (·.attemptOrder) =
    (List.range' 1 log.attempts.length).map fun order => min order (2 ^ 32 - 1)

theorem Numbered.record (h : log.Numbered) (call : Call × UInt64) :
    (log.record call).Numbered := by
  have hnext : min (log.attemptOrder + 1) (2 ^ 32 - 1) =
      min (log.attempts.length + 1) (2 ^ 32 - 1) := by
    rw [h.counter]
    omega
  constructor
  · simp only [AttemptLog.record, push, List.length_append, List.length_singleton]
    exact hnext
  · simp only [AttemptLog.record, push, List.map_append, List.length_append,
      List.length_singleton, List.map_singleton, h.orders, List.range'_append_1.symm,
      List.range'_one, hnext]
    rw [Nat.add_comm 1 log.attempts.length]

theorem Numbered.recordAll (h : log.Numbered) (calls : List (Call × UInt64)) :
    (log.recordAll calls).Numbered := by
  induction calls generalizing log with
  | nil => exact h
  | cons call calls ih => exact ih (h.record call)

end AttemptLog

/-! ## Episodes -/

/-- How the calls of one candidate end. -/
inductive Verdict where
  | served
  /-- An error after which no other provider is tried. -/
  | stopped
  /-- Every retry failed. -/
  | spent
  | emptied
  deriving DecidableEq, Repr

/-- The first outcome that ends the retry loop of a candidate. -/
def verdict {α : Type} (outcome : Site → Outcome α) (index : Nat) : (left retry : Nat) → Verdict
  | left, retry =>
      match outcome ⟨index, retry⟩ with
      | .served _ => .served
      | .empty => .emptied
      | .failed error =>
          match fallbackDecision error with
          | .stop => .stopped
          | .tryNextProvider =>
              match left with
              | 0 => .spent
              | left + 1 => verdict outcome index left (retry + 1)

/-- The calls that a candidate may get from retry `retry` on, with `left` retries to go: what
they are, what is reported and how they end. -/
inductive Episode (entry : ProviderEntry) (index : Nat) :
    (left retry : Nat) → List (Call × UInt64) → List Report → Verdict → Prop
  | served {left retry : Nat} (latencyMs : UInt64) :
      Episode entry index left retry [(⟨⟨index, retry⟩, entry.name, none⟩, latencyMs)]
        [.success index entry.name] .served
  | stopped {left retry : Nat} (latencyMs : UInt64) {error : ProviderError}
      (hstop : fallbackDecision error = .stop) :
      Episode entry index left retry [(⟨⟨index, retry⟩, entry.name, some error⟩, latencyMs)] []
        .stopped
  | spent {retry : Nat} (latencyMs : UInt64) {error : ProviderError}
      (hretry : fallbackDecision error = .tryNextProvider) :
      Episode entry index 0 retry [(⟨⟨index, retry⟩, entry.name, some error⟩, latencyMs)]
        [.failure index entry.name] .spent
  | emptied {left retry : Nat} (latencyMs : UInt64) :
      Episode entry index left retry
        [(⟨⟨index, retry⟩, entry.name, some .providerBadResponse⟩, latencyMs)] [] .emptied
  | retried {left retry : Nat} (latencyMs : UInt64) {error : ProviderError}
      (hretry : fallbackDecision error = .tryNextProvider) {calls : List (Call × UInt64)}
      {reports : List Report} {verdict : Verdict}
      (hrest : Episode entry index left (retry + 1) calls reports verdict) :
      Episode entry index (left + 1) retry
        ((⟨⟨index, retry⟩, entry.name, some error⟩, latencyMs) :: calls) reports verdict

namespace Episode

variable {entry : ProviderEntry} {index left retry : Nat} {calls : List (Call × UInt64)}
  {reports : List Report} {verdict : Verdict}

theorem retryable_iff {site : Site} {provider : String} {error : ProviderError} :
    Call.retryable ⟨site, provider, some error⟩ = true ↔
      fallbackDecision error = .tryNextProvider := by
  rw [Call.retryable, Option.any_some, beq_iff_eq]

section

variable (h : Episode entry index left retry calls reports verdict)

include h

theorem calls_ne_nil : calls ≠ [] := by
  cases h <;> exact List.cons_ne_nil _ _

theorem sites :
    calls.map (·.1.site) = (List.range' retry calls.length).map (Site.mk index) := by
  induction h with
  | served _ | stopped _ _ | spent _ _ | emptied _ => rfl
  | retried _ _ _ ih => rw [List.map_cons, ih, List.length_cons, List.range'_succ, List.map_cons]

theorem provider :
    ∀ call ∈ calls, call.1.provider = entry.name := by
  induction h with
  | served _ | stopped _ _ | spent _ _ | emptied _ =>
      intro call hcall
      rw [List.mem_singleton.mp hcall]
  | retried _ _ _ ih => exact List.forall_mem_cons.mpr ⟨rfl, ih⟩

theorem bounded :
    calls.length ≤ left + 1 := by
  induction h with
  | served _ | stopped _ _ | spent _ _ | emptied _ => exact Nat.le_add_left 1 _
  | retried _ _ _ ih => exact Nat.succ_le_succ ih

/-- Only the last call can be served. -/
theorem dropLast_failed :
    ∀ call ∈ calls.dropLast, call.1.error ≠ none := by
  induction h with
  | served _ | stopped _ _ | spent _ _ | emptied _ => nofun
  | retried _ _ hrest ih =>
      rw [List.dropLast_cons_of_ne_nil hrest.calls_ne_nil]
      exact List.forall_mem_cons.mpr ⟨nofun, ih⟩

/-- A candidate that was not served failed at every call. -/
theorem failed (hverdict : verdict ≠ .served) : ∀ call ∈ calls, call.1.error ≠ none := by
  induction h with
  | served _ => exact absurd rfl hverdict
  | stopped _ _ | spent _ _ | emptied _ =>
      intro call hcall
      rw [List.mem_singleton.mp hcall]
      nofun
  | retried _ _ _ ih => exact List.forall_mem_cons.mpr ⟨nofun, ih hverdict⟩

/-- All calls but the last are retryable, and the last one is exactly when the retries are
spent. -/
theorem retryable :
    (calls.map (·.1)).dropLast.all Call.retryable = true ∧
      ((calls.map (·.1)).all Call.retryable = true ↔ verdict = .spent) := by
  induction h with
  | served _ => simp [Call.retryable]
  | stopped _ hstop => simp [Call.retryable, hstop]
  | spent _ hretry => simp [Call.retryable, hretry]
  | emptied _ => simp [Call.retryable, fallbackDecision]
  | retried _ hretry hrest ih =>
      have hne := hrest.calls_ne_nil
      rw [List.map_cons, List.dropLast_cons_of_ne_nil (by simpa using hne)]
      simpa [retryable_iff, hretry] using ih

/-- The reports of an episode, from its calls. -/
theorem reports_eq :
    reports =
      if ∃ call ∈ calls.map (·.1), call.error = none then [.success index entry.name]
      else if calls.length = left + 1 ∧ ∀ call ∈ calls.map (·.1), call.retryable = true then
        [.failure index entry.name]
      else [] := by
  induction h with
  | served _ => simp
  | stopped _ hstop => simp [retryable_iff, hstop]
  | spent _ hretry => simp [retryable_iff, hretry]
  | emptied _ => simp [retryable_iff, fallbackDecision]
  | @retried left retry latencyMs error hretry calls reports verdict _ ih =>
      -- A retryable failure in front changes neither condition.
      have hserved : (∃ call ∈ ((⟨⟨index, retry⟩, entry.name, some error⟩, latencyMs) ::
          calls).map (·.1), call.error = none) ↔
          ∃ call ∈ calls.map (·.1), call.error = none := by
        simp
      have hexhausted : (((⟨⟨index, retry⟩, entry.name, some error⟩, latencyMs) ::
          calls).length = left + 1 + 1 ∧ ∀ call ∈ ((⟨⟨index, retry⟩, entry.name, some error⟩,
            latencyMs) :: calls).map (·.1), call.retryable = true) ↔
          calls.length = left + 1 ∧ ∀ call ∈ calls.map (·.1), call.retryable = true := by
        simp [retryable_iff, hretry]
      rw [ih]
      exact if_congr hserved.symm rfl (if_congr hexhausted.symm rfl rfl)

end

theorem last_served (h : Episode entry index left retry calls reports .served) :
    ∃ call, calls.getLast? = some call ∧ call.1.error = none ∧ call.1.provider = entry.name := by
  generalize hverdict : Verdict.served = verdict at h
  induction h with
  | served _ => exact ⟨_, rfl, rfl, rfl⟩
  | stopped _ _ | spent _ _ | emptied _ => cases hverdict
  | retried _ _ hrest ih =>
      obtain ⟨call, hcall, hserved⟩ := ih hverdict
      refine ⟨call, ?_, hserved⟩
      obtain ⟨next, rest, rfl⟩ := List.exists_cons_of_ne_nil hrest.calls_ne_nil
      rwa [List.getLast?_cons_cons]

end Episode

section Runs

variable {α σ : Type} {entry : ProviderEntry} {more : Bool} {calls : List (Call × UInt64)}
  {log log' : AttemptLog} {exit : RetryExit (Found α)} {result : Except FallbackError (Found α)}
  {ver : Verdict}

/-- The call an event of the search is. -/
def searchCalls : Event (SearchAns α) → List Call
  | ⟨.call site entry, (outcome, _)⟩ => [⟨site, entry.name, outcome.error⟩]
  | _ => []

/-- The call an event of the search is, with its time. -/
def timedCalls : Event (SearchAns α) → List (Call × UInt64)
  | ⟨.call site entry, (outcome, latencyMs)⟩ => [(⟨site, entry.name, outcome.error⟩, latencyMs)]
  | _ => []

def searchReports : Event (SearchAns α) → List Report
  | ⟨.won index provider, _⟩ => [.success index provider]
  | ⟨.lost index provider, _⟩ => [.failure index provider]
  | _ => []

theorem map_timedCalls (trace : List (Event (SearchAns α))) :
    (trace.flatMap timedCalls).map (·.1) = trace.flatMap searchCalls := by
  rw [List.map_flatMap]
  congr 1
  funext e
  obtain ⟨o, answer⟩ := e
  cases o <;> rfl

/-- The error of the last call. -/
def lastError (calls : List (Call × UInt64)) : Option ProviderError :=
  calls.getLast?.bind fun call => call.1.error

/-- How the retry loop is left after calls with this verdict. -/
def Leaves (entry : ProviderEntry) (more : Bool) (calls : List (Call × UInt64))
    (log : AttemptLog) (exit : RetryExit (Found α)) : Verdict → Prop
  | .served => ∃ value guard,
      exit = .returned (.ok ⟨value, entry, guard, (log.recordAll calls).attempts⟩)
  | .stopped => ∃ error, lastError calls = some error ∧
      exit = .returned (.error (.providerFailed error (log.recordAll calls).attempts))
  | .spent => ∃ error, lastError calls = some error ∧
      exit = .left (some error) (log.recordAll calls)
  | .emptied =>
      if more then ∃ last, exit = .left last (log.recordAll calls)
      else ∃ error, lastError calls = some error ∧
        exit = .returned (.error (.providerFailed error (log.recordAll calls).attempts))

theorem lastError_cons {call : Call × UInt64} (h : calls ≠ []) :
    lastError (call :: calls) = lastError calls := by
  obtain ⟨next, rest, rfl⟩ := List.exists_cons_of_ne_nil h
  rw [lastError, lastError, List.getLast?_cons_cons]

theorem Leaves.cons {call : Call × UInt64} (hne : calls ≠ [])
    (h : Leaves entry more calls (log.record call) exit ver) :
    Leaves entry more (call :: calls) log exit ver := by
  cases ver <;> simpa only [Leaves, AttemptLog.recordAll_cons, lastError_cons hne] using h

/-- The retry loop makes an episode, and where the outcomes are given its verdict is theirs. -/
theorem searchRetries_episode (h : (o : SearchOp) → σ → SearchAns α o × σ) (s : σ)
    (entry : ProviderEntry) (index : Nat) (guard : GuardId) (more : Bool) (left retry : Nat)
    (last : Option ProviderError) (log : AttemptLog) :
    let r := (searchRetries entry index guard more left retry last log).run h s
    ∃ ver, Episode entry index left retry (r.trace.flatMap timedCalls)
        (r.trace.flatMap searchReports) ver ∧
      Leaves entry more (r.trace.flatMap timedCalls) log r.value ver ∧
      ∀ outcome, (∀ site s, (h (.call site entry) s).1.1 = outcome site) →
        ver = verdict outcome index left retry := by
  have hverdict : ∀ outcome, (∀ site s, (h (.call site entry) s).1.1 = outcome site) →
      verdict outcome index left retry =
        match (h (.call ⟨index, retry⟩ entry) s).1.1 with
        | .served _ => .served
        | .empty => .emptied
        | .failed error =>
            match fallbackDecision error with
            | .stop => .stopped
            | .tryNextProvider =>
                match left with
                | 0 => .spent
                | left + 1 => verdict outcome index left (retry + 1) := by
    intro outcome houtcome
    rw [verdict.eq_def, houtcome]
  rw [searchRetries]
  simp only [bind_eq_bind, perform_bind, pure_eq_ret, run_op]
  cases hcall : h (.call ⟨index, retry⟩ entry) s with
  | mk answer s' =>
      obtain ⟨outcome, latencyMs⟩ := answer
      rw [hcall] at hverdict
      cases outcome with
      | served value =>
          exact ⟨.served, .served latencyMs, ⟨value, guard, rfl⟩,
            fun outcome houtcome => (hverdict outcome houtcome).symm⟩
      | empty =>
          have hver := fun outcome houtcome => (hverdict outcome houtcome).symm
          cases more with
          | true => exact ⟨.emptied, .emptied latencyMs, ⟨last, rfl⟩, hver⟩
          | false => exact ⟨.emptied, .emptied latencyMs, ⟨.providerBadResponse, rfl, rfl⟩, hver⟩
      | failed error =>
          simp only [Outcome.error]
          cases hdecision : fallbackDecision error with
          | stop =>
              simp only [hdecision] at hverdict
              exact ⟨.stopped, .stopped latencyMs hdecision, ⟨error, rfl, rfl⟩,
                fun outcome houtcome => (hverdict outcome houtcome).symm⟩
          | tryNextProvider =>
              simp only [hdecision] at hverdict
              cases left with
              | zero =>
                  exact ⟨.spent, .spent latencyMs hdecision, ⟨error, rfl, rfl⟩,
                    fun outcome houtcome => (hverdict outcome houtcome).symm⟩
              | succ left =>
                  obtain ⟨ver, hepisode, hleaves, hver⟩ := searchRetries_episode h
                    (h (.backoff ⟨index, retry⟩ entry.name) s').2 entry index guard more left
                    (retry + 1) (some error)
                    (log.record (⟨⟨index, retry⟩, entry.name, some error⟩, latencyMs))
                  exact ⟨ver, .retried latencyMs hdecision hepisode,
                    hleaves.cons hepisode.calls_ne_nil, fun outcome houtcome =>
                      (hver outcome houtcome).trans (hverdict outcome houtcome).symm⟩

/-- How a search ends with the calls of a candidate. -/
def Settles (entry : ProviderEntry) (calls : List (Call × UInt64)) (log : AttemptLog)
    (result : Except FallbackError (Found α)) : Verdict → Prop
  | .served => ∃ value guard,
      result = .ok ⟨value, entry, guard, (log.recordAll calls).attempts⟩
  | _ => ∃ error, lastError calls = some error ∧
      result = .error (.providerFailed error (log.recordAll calls).attempts)

/-- Where the retry loop returns, the search ends. -/
theorem Leaves.settles (h : Leaves entry more calls log (.returned result) ver) :
    Settles entry calls log result ver ∧ (more = false ∨ ver = .served ∨ ver = .stopped) := by
  cases ver with
  | served =>
      obtain ⟨value, guard, hexit⟩ := h
      cases hexit
      exact ⟨⟨value, guard, rfl⟩, .inr (.inl rfl)⟩
  | stopped =>
      obtain ⟨error, hlast, hexit⟩ := h
      cases hexit
      exact ⟨⟨error, hlast, rfl⟩, .inr (.inr rfl)⟩
  | spent =>
      obtain ⟨error, -, hexit⟩ := h
      cases hexit
  | emptied =>
      cases more with
      | true =>
          obtain ⟨last, hexit⟩ := h
          cases hexit
      | false =>
          obtain ⟨error, hlast, hexit⟩ := h
          cases hexit
          exact ⟨⟨error, hlast, rfl⟩, .inl rfl⟩

/-- Where it breaks, the log has the calls, and at the last candidate the error is that of
the last call. -/
theorem Leaves.left {last : Option ProviderError}
    (h : Leaves entry more calls log (.left last log' : RetryExit (Found α)) ver) :
    log' = log.recordAll calls ∧ (ver = .spent ∨ ver = .emptied) ∧
      (more = false → ∃ error, last = some error ∧ lastError calls = some error) := by
  cases ver with
  | served =>
      obtain ⟨value, guard, hexit⟩ := h
      cases hexit
  | stopped =>
      obtain ⟨error, -, hexit⟩ := h
      cases hexit
  | spent =>
      obtain ⟨error, hlast, hexit⟩ := h
      cases hexit
      exact ⟨rfl, .inl rfl, fun _ => ⟨error, rfl, hlast⟩⟩
  | emptied =>
      cases more with
      | true =>
          obtain ⟨last', hexit⟩ := h
          cases hexit
          exact ⟨rfl, .inr rfl, nofun⟩
      | false =>
          obtain ⟨error, -, hexit⟩ := h
          cases hexit

theorem Settles.of_ne_served (hver : ver ≠ .served) {error : ProviderError}
    (hlast : lastError calls = some error) :
    Settles entry calls log (.error (.providerFailed error (log.recordAll calls).attempts) :
      Except FallbackError (Found α)) ver := by
  cases ver with
  | served => exact absurd rfl hver
  | stopped => exact ⟨error, hlast, rfl⟩
  | spent => exact ⟨error, hlast, rfl⟩
  | emptied => exact ⟨error, hlast, rfl⟩

end Runs
end RustyGate
