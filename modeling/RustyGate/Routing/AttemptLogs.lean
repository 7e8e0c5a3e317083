/-
What a search notes down, for any circuits, limits and providers.

A search is a `Tour` of candidates, some of which are skipped and the others visited for an
`Episode` each.  Every run is a tour (`search_tour`), and the attempts in its result are the
calls of its episodes, one after the other.
-/
import RustyGate.Routing.FallbackRuns

namespace RustyGate

open Effect Effect.Program Gateway

section Runs

variable {α σ : Type}

/-! ## All candidates -/

/-- A candidate that was called, with its calls. -/
structure Visit where
  entry : ProviderEntry
  index : Nat
  calls : List Call

namespace Visit

/-- Some call was served. -/
def Served (v : Visit) : Prop := ∃ call ∈ v.calls, call.error = none

/-- The first call and all retries failed with errors after which another provider may be
tried. -/
def Exhausted (budget : String → Nat) (v : Visit) : Prop :=
  v.calls.length = budget v.entry.name + 1 ∧ ∀ call ∈ v.calls, call.retryable = true

instance (v : Visit) : Decidable v.Served :=
  inferInstanceAs (Decidable (∃ call ∈ v.calls, call.error = none))

instance (budget : String → Nat) (v : Visit) : Decidable (v.Exhausted budget) :=
  inferInstanceAs (Decidable (_ ∧ _))

/-- What is reported of a visit. -/
def reports (budget : String → Nat) (v : Visit) : List Report :=
  if v.Served then [.success v.index v.entry.name]
  else if v.Exhausted budget then [.failure v.index v.entry.name]
  else []

/-- The calls are a first call and retries of it, all at the provider. -/
structure Made (budget : String → Nat) (v : Visit) : Prop where
  called : v.calls ≠ []
  provider : ∀ call ∈ v.calls, call.provider = v.entry.name
  sites : v.calls.map (·.site) = (List.range v.calls.length).map (Site.mk v.index)
  bounded : v.calls.length ≤ budget v.entry.name + 1

end Visit

/-- A way through the candidates: the visits, all calls and reports, and the result. -/
inductive Tour (budget : String → Nat) :
    List ProviderEntry → Nat → AttemptLog → List Visit → List (Call × UInt64) → List Report →
      Except FallbackError (Found α) → Prop
  | finished {index : Nat} {log : AttemptLog} (rejection : Option AdmissionRejection) :
      Tour budget [] index log [] [] [] (exhausted rejection)
  | skipped {entry : ProviderEntry} {rest : List ProviderEntry} {index : Nat} {log : AttemptLog}
      {visits : List Visit} {calls : List (Call × UInt64)} {reports : List Report}
      {result : Except FallbackError (Found α)}
      (hrest : Tour budget rest (index + 1) log visits calls reports result) :
      Tour budget (entry :: rest) index log visits calls reports result
  | ended {entry : ProviderEntry} {rest : List ProviderEntry} {index : Nat} {log : AttemptLog}
      {calls : List (Call × UInt64)} {reports : List Report} {verdict : Verdict}
      {result : Except FallbackError (Found α)}
      (hepisode : Episode entry index (budget entry.name) 0 calls reports verdict)
      (hsettles : Settles entry calls log result verdict) :
      Tour budget (entry :: rest) index log [⟨entry, index, calls.map (·.1)⟩] calls reports result
  | passed {entry : ProviderEntry} {rest : List ProviderEntry} {index : Nat} {log : AttemptLog}
      {calls later : List (Call × UInt64)} {reports laterReports : List Report}
      {verdict : Verdict} {visits : List Visit} {result : Except FallbackError (Found α)}
      (hepisode : Episode entry index (budget entry.name) 0 calls reports verdict)
      (hverdict : verdict ≠ .served)
      (hrest : Tour budget rest (index + 1) (log.recordAll calls) visits later laterReports
        result) :
      Tour budget (entry :: rest) index log (⟨entry, index, calls.map (·.1)⟩ :: visits)
        (calls ++ later) (reports ++ laterReports) result

/-- The search makes a tour. -/
theorem search_tour (h : (o : SearchOp) → σ → SearchAns α o × σ) (budget : String → Nat)
    (candidates : List ProviderEntry) (index : Nat) (log : AttemptLog)
    (rejection : Option AdmissionRejection) (s : σ) :
    let r := (search budget candidates index log rejection).run h s
    ∃ visits, Tour budget candidates index log visits (r.trace.flatMap timedCalls)
      (r.trace.flatMap searchReports) r.value := by
  induction candidates generalizing index log rejection s with
  | nil => exact ⟨[], .finished rejection⟩
  | cons entry rest ih =>
      rw [search]
      simp only [bind_eq_bind, perform_bind, run_op]
      cases hallow : h (.allow index entry.name) s with
      | mk allowed s₁ =>
          cases allowed with
          | false =>
              obtain ⟨visits, htour⟩ := ih (index + 1) log rejection s₁
              exact ⟨visits, .skipped htour⟩
          | true =>
              simp only [run_op]
              cases hreserve : h (.reserve index entry.name) s₁ with
              | mk reserved s₂ =>
                  cases reserved with
                  | error rejected =>
                      obtain ⟨visits, htour⟩ := ih (index + 1) log (some rejected) s₂
                      exact ⟨visits, .skipped htour⟩
                  | ok guard =>
                      simp only [run_bind]
                      obtain ⟨verdict, hepisode, hleaves, -⟩ :=
                        searchRetries_episode h s₂ entry index guard (!rest.isEmpty)
                          (budget entry.name) 0 none log
                      generalize (searchRetries entry index guard (!rest.isEmpty)
                        (budget entry.name) 0 none log).run h s₂ = r at hepisode hleaves ⊢
                      obtain ⟨trace, exit, s₃⟩ := r
                      simp only at hepisode hleaves
                      cases exit with
                      | returned result =>
                          have htour : Tour budget (entry :: rest) index log _
                              (trace.flatMap timedCalls) (trace.flatMap searchReports) result :=
                            .ended hepisode hleaves.settles.1
                          refine ⟨[⟨entry, index, (trace.flatMap timedCalls).map (·.1)⟩], ?_⟩
                          cases result <;> simpa [timedCalls, searchReports] using htour
                      | left last log' =>
                          obtain ⟨rfl, hver, hlast⟩ := hleaves.left
                          have hverdict : verdict ≠ .served := by
                            rcases hver with rfl | rfl <;> decide
                          cases rest with
                          | nil =>
                              obtain ⟨error, rfl, herror⟩ := hlast rfl
                              have hsettles : Settles entry (trace.flatMap timedCalls) log
                                  (_ : Except FallbackError (Found α)) verdict :=
                                .of_ne_served hverdict herror
                              have htour : Tour budget [entry] index log _ _ _ _ :=
                                .ended hepisode hsettles
                              refine ⟨[⟨entry, index, (trace.flatMap timedCalls).map (·.1)⟩], ?_⟩
                              simpa [timedCalls, searchReports] using htour
                          | cons next rest =>
                              obtain ⟨visits, hrest⟩ := ih (index + 1)
                                (log.recordAll (trace.flatMap timedCalls)) rejection
                                (h (.release guard) s₃).2
                              have htour := Tour.passed hepisode hverdict hrest
                              refine ⟨⟨entry, index, (trace.flatMap timedCalls).map (·.1)⟩ ::
                                visits, ?_⟩
                              cases last <;> simpa [timedCalls, searchReports] using htour

/-! ## What a tour says -/

namespace Tour

variable {budget : String → Nat} {candidates : List ProviderEntry} {index : Nat}
  {log : AttemptLog} {visits : List Visit} {calls : List (Call × UInt64)}
  {reports : List Report} {result : Except FallbackError (Found α)}

theorem made_of_episode {entry : ProviderEntry} {verdict : Verdict}
    (h : Episode entry index (budget entry.name) 0 calls reports verdict) :
    Visit.Made budget ⟨entry, index, calls.map (·.1)⟩ where
  called := by simpa using h.calls_ne_nil
  provider := List.forall_mem_map.mpr h.provider
  sites := by
    rw [List.map_map, List.length_map, List.range_eq_range']
    exact h.sites
  bounded := by
    rw [List.length_map]
    exact h.bounded

theorem reports_of_episode {entry : ProviderEntry} {verdict : Verdict}
    (h : Episode entry index (budget entry.name) 0 calls reports verdict) :
    reports = Visit.reports budget ⟨entry, index, calls.map (·.1)⟩ := by
  rw [h.reports_eq]
  refine if_congr Iff.rfl rfl (if_congr ?_ rfl rfl)
  rw [Visit.Exhausted, List.length_map]

theorem lastError_append {calls later : List (Call × UInt64)} (h : later ≠ []) :
    lastError (calls ++ later) = lastError later := by
  rw [lastError, lastError, List.getLast?_append_of_ne_nil _ h]

/-- What a result says of the calls. -/
def Concludes (log : AttemptLog) (visits : List Visit) (calls : List (Call × UInt64)) :
    Except FallbackError (Found α) → Prop
  | .ok found => found.attempts = (log.recordAll calls).attempts ∧
      (∃ call, calls.getLast? = some call ∧ call.1.error = none ∧
        call.1.provider = found.entry.name) ∧
      visits.getLast?.map (·.entry) = some found.entry
  | .error (.providerFailed error attempts) =>
      attempts = (log.recordAll calls).attempts ∧ lastError calls = some error
  | .error _ => True

variable (h : Tour budget candidates index log visits calls reports result)

include h

/-- The visits are in the order of the candidates. -/
theorem in_order :
    (visits.map fun v => (v.entry, v.index)).Sublist (candidates.zipIdx index) := by
  induction h with
  | finished _ => exact List.Sublist.slnil
  | skipped _ ih => exact ih.cons _
  | ended _ _ => exact (List.nil_sublist _).cons_cons _
  | passed _ _ _ ih => exact ih.cons_cons _

theorem made :
    ∀ v ∈ visits, v.Made budget := by
  induction h with
  | finished _ => nofun
  | skipped _ ih => exact ih
  | ended hepisode _ => exact List.forall_mem_singleton.mpr (made_of_episode hepisode)
  | passed hepisode _ _ ih => exact List.forall_mem_cons.mpr ⟨made_of_episode hepisode, ih⟩

theorem calls_eq :
    calls.map (·.1) = visits.flatMap (·.calls) := by
  induction h with
  | finished _ => rfl
  | skipped _ ih => exact ih
  | ended _ _ => rw [List.flatMap_singleton]
  | passed _ _ _ ih => rw [List.map_append, ih, List.flatMap_cons]

theorem reports_eq :
    reports = visits.flatMap (Visit.reports budget) := by
  induction h with
  | finished _ => rfl
  | skipped _ ih => exact ih
  | ended hepisode _ => rw [List.flatMap_singleton, reports_of_episode hepisode]
  | passed hepisode _ _ ih => rw [List.flatMap_cons, ← ih, ← reports_of_episode hepisode]

/-- Only the last call can be served. -/
theorem dropLast_failed :
    ∀ call ∈ calls.dropLast, call.1.error ≠ none := by
  induction h with
  | finished _ => nofun
  | skipped _ ih => exact ih
  | ended hepisode _ => exact hepisode.dropLast_failed
  | @passed _ _ _ _ calls later _ _ _ _ _ hepisode hverdict _ ih =>
      by_cases hlater : later = []
      · rw [hlater, List.append_nil]
        exact hepisode.dropLast_failed
      · rw [List.dropLast_append_of_ne_nil hlater]
        exact List.forall_mem_append.mpr ⟨hepisode.failed hverdict, ih⟩

theorem concludes :
    Concludes log visits calls result := by
  induction h with
  | finished rejection => cases rejection <;> trivial
  | skipped _ ih => exact ih
  | @ended _ _ _ _ _ _ verdict _ hepisode hsettles =>
      cases verdict with
      | served =>
          obtain ⟨value, guard, rfl⟩ := hsettles
          exact ⟨rfl, hepisode.last_served, rfl⟩
      | stopped | spent | emptied =>
          obtain ⟨error, hlast, rfl⟩ := hsettles
          exact ⟨rfl, hlast⟩
  | @passed _ _ _ _ calls later _ _ _ visits result _ _ _ ih =>
      match result with
      | .ok found =>
          obtain ⟨hattempts, ⟨call, hcall, hserved⟩, hentry⟩ := ih
          refine ⟨?_, ⟨call, ?_, hserved⟩, ?_⟩
          · rw [hattempts, AttemptLog.recordAll_append]
          · rw [List.getLast?_append, hcall, Option.some_or]
          · cases visits with
            | nil => cases hentry
            | cons v visits => rwa [List.getLast?_cons_cons]
      | .error (.providerFailed error attempts) =>
          obtain ⟨hattempts, hlast⟩ := ih
          have hne : later ≠ [] := by
            rintro rfl
            cases hlast
          exact ⟨by rw [hattempts, AttemptLog.recordAll_append], by rwa [lastError_append hne]⟩
      | .error .noProviderAvailable => trivial
      | .error (.admissionRejected _) => trivial

end Tour

/-- The attempts a result carries are the calls made. -/
def Reported (calls : List Call) : Except FallbackError (Found α) → Prop
  | .ok found => List.Forall₂ Call.Matches calls found.attempts
  | .error (.providerFailed _ attempts) => List.Forall₂ Call.Matches calls attempts
  | .error _ => True

theorem search_reported (h : (o : SearchOp) → σ → SearchAns α o × σ) (budget : String → Nat)
    (candidates : List ProviderEntry) (index : Nat) (rejection : Option AdmissionRejection) (s : σ)
    {log : AttemptLog} {prior : List Call} (hlog : List.Forall₂ Call.Matches prior log.attempts) :
    let r := (search budget candidates index log rejection).run h s
    Reported (prior ++ r.trace.flatMap searchCalls) r.value := by
  obtain ⟨visits, htour⟩ := search_tour h budget candidates index log rejection s
  have hmatches := AttemptLog.recordAll_matches hlog
    (((search budget candidates index log rejection).run h s).trace.flatMap timedCalls)
  rw [map_timedCalls] at hmatches
  have hconcludes := htour.concludes
  simp only
  generalize ((search budget candidates index log rejection).run h s).value = result
    at hconcludes ⊢
  match result with
  | .ok found =>
      rw [← hconcludes.1] at hmatches
      exact hmatches
  | .error (.providerFailed error attempts) =>
      rw [← hconcludes.1] at hmatches
      exact hmatches
  | .error .noProviderAvailable => trivial
  | .error (.admissionRejected rejected) => trivial

end Runs

/-! ## Attempts -/

/-- The attempts are the calls in their order, numbered from one, and only the last can be a
success. -/
structure Attempted (calls : List Call) (attempts : List ProviderAttempt) : Prop where
  each : List.Forall₂ Call.Matches calls attempts
  numbered : calls.length < 2 ^ 32 →
    attempts.map (·.attemptOrder) = List.range' 1 attempts.length
  failed : ∀ attempt ∈ attempts.dropLast, attempt.success = false

theorem exists_of_forall₂_right {α β : Type} {r : α → β → Prop} {l : List α} {l' : List β}
    (h : List.Forall₂ r l l') {b : β} (hb : b ∈ l') : ∃ a ∈ l, r a b := by
  induction h with
  | nil => cases hb
  | cons hab _ ih =>
      rcases List.mem_cons.mp hb with rfl | hb
      · exact ⟨_, List.mem_cons_self, hab⟩
      · obtain ⟨a, ha, hr⟩ := ih hb
        exact ⟨a, List.mem_cons_of_mem _ ha, hr⟩

theorem attempted_recordAll {calls : List (Call × UInt64)}
    (hfailed : ∀ call ∈ calls.dropLast, call.1.error ≠ none) :
    Attempted (calls.map (·.1)) (({} : AttemptLog).recordAll calls).attempts := by
  have heach : List.Forall₂ Call.Matches (calls.map (·.1))
      (({} : AttemptLog).recordAll calls).attempts := by
    have hstart : List.Forall₂ Call.Matches [] ({} : AttemptLog).attempts := .nil
    exact AttemptLog.recordAll_matches hstart calls
  refine ⟨heach, fun hfew => ?_, ?_⟩
  · have hstart : ({} : AttemptLog).Numbered := ⟨rfl, rfl⟩
    rw [heach.length_eq] at hfew
    rw [(hstart.recordAll calls).orders]
    conv_rhs => rw [← List.map_id (List.range' 1 _)]
    refine List.map_congr_left fun order horder => ?_
    have hbound := (List.mem_range'_1.mp horder).2
    show min order (2 ^ 32 - 1) = order
    omega
  · have hdrop : List.Forall₂ Call.Matches (calls.map (·.1)).dropLast
        (({} : AttemptLog).recordAll calls).attempts.dropLast := by
      rw [List.dropLast_eq_take, List.dropLast_eq_take, ← heach.length_eq]
      exact List.forall₂_take _ heach
    rw [← List.map_dropLast] at hdrop
    intro attempt hattempt
    obtain ⟨call, hcall, hmatches⟩ := exists_of_forall₂_right hdrop hattempt
    obtain ⟨timed, htimed, rfl⟩ := List.mem_map.mp hcall
    rw [hmatches.success, Option.isNone_eq_false_iff, Option.isSome_iff_ne_none]
    exact hfailed timed htimed

/-- The attempts of a list match its calls up to the last one. -/
theorem forall₂_getLast? {α β : Type} {r : α → β → Prop} {l : List α} {l' : List β}
    (h : List.Forall₂ r l l') : Option.Rel r l.getLast? l'.getLast? := by
  induction h with
  | nil => exact .none
  | cons hab hrest ih =>
      cases hrest with
      | nil => exact .some hab
      | cons _ _ => simpa only [List.getLast?_cons_cons] using ih

/-- The last attempt of a success is the one that succeeded. -/
theorem Tour.last_succeeded {α : Type} {budget : String → Nat} {candidates : List ProviderEntry}
    {visits : List Visit} {calls : List (Call × UInt64)} {reports : List Report} {found : Found α}
    (h : Tour budget candidates 0 {} visits calls reports (.ok found)) :
    ∃ last, found.attempts.getLast? = some last ∧ last.success = true ∧
      last.providerName = found.entry.name := by
  obtain ⟨hattempts, ⟨call, hcall, herror, hprovider⟩, -⟩ := h.concludes
  have hlast := forall₂_getLast? (attempted_recordAll h.dropLast_failed).each
  rw [List.getLast?_map, hcall, ← hattempts] at hlast
  generalize found.attempts.getLast? = last at hlast
  cases hlast with
  | @some _ last hmatches =>
      refine ⟨last, rfl, ?_, hmatches.provider.trans hprovider⟩
      rw [hmatches.success, herror]
      rfl

section Gateway

variable {σ : Type} (c : FallbackCall) (h : (o : Op) → σ → Ans o × σ)

/-- What an event tells the circuit breaker. -/
def reportsOf : Event Ans → List Report
  | ⟨.recordSuccess index provider, _⟩ => [.success index provider]
  | ⟨.recordFailure index provider, _⟩ => [.failure index provider]
  | _ => []

@[simp] theorem reports_recordFallback (policy : RoutingPolicy) (index : Nat) (s : σ) :
    ((recordFallback policy index).run h s).trace.flatMap reportsOf = [] := by
  unfold recordFallback
  split <;> rfl

@[simp] theorem reports_recordPrefixAffinitySelection (f : PrefixFingerprintResult)
    (provider : String) (policy : RoutingPolicy) (s : σ) :
    ((recordPrefixAffinitySelection f provider policy).run h s).trace.flatMap reportsOf = [] := by
  unfold recordPrefixAffinitySelection
  split
  · split <;> rfl
  · rfl

theorem reports_chatImpl (o : SearchOp) (s : σ) :
    ((chatImpl c o).run h s).trace.flatMap reportsOf =
      searchReports ⟨o, ((chatImpl c o).run h s).value⟩ := by
  cases o with
  | allow index provider =>
      simp only [chatImpl, implement, bind_eq_bind, perform_bind, run_op, pure_eq_ret]
      cases (h (.allowProviderCall index provider) s).1 <;> rfl
  | reserve index provider =>
      simp only [chatImpl, implement, bind_eq_bind, perform_bind, run_op, pure_eq_ret]
      cases (h (.tryAcquireProvider index provider) s).1 with
      | error rejected => rfl
      | ok guard => simp [run_bind, reportsOf, searchReports]
  | call site entry =>
      simp only [chatImpl, implement, chatCall, bind_eq_bind, perform_bind, run_op, pure_eq_ret]
      generalize (h (.chatCompletion site entry.name (requestForProvider c.request entry.model))
        (h (.metrics (.beginProviderRequest entry.name c.inFlightUnits)) s).2).1 = result
      cases result <;> rfl
  | won index provider =>
      simp only [chatImpl, implement, bind_eq_bind, perform_bind, run_op, run_bind,
        List.flatMap_cons, List.flatMap_append, reports_recordPrefixAffinitySelection]
      rfl
  | backoff site provider => rfl
  | lost index provider => rfl
  | quit provider => rfl
  | handOver guard => rfl
  | release guard => rfl

/-- What the result of `complete_chat` says of the calls: it has all of them, and says how
the last one ended. -/
def ChatConcludes (visits : List Visit) (calls : List Call) :
    Except FallbackError FallbackSuccess → Prop
  | .ok success => Attempted calls success.attempts ∧
      (∃ last, success.attempts.getLast? = some last ∧ last.success = true ∧
        last.providerName = success.providerName) ∧
      ∃ v, visits.getLast? = some v ∧ success.providerName = v.entry.name ∧
        success.costEstimate = v.entry.pricing.estimateCost success.response.usage.promptTokens
          success.response.usage.completionTokens
  | .error (.providerFailed error attempts) => Attempted calls attempts ∧
      ∃ last, attempts.getLast? = some last ∧ last.success = false ∧
        last.errorCategory = some (providerErrorCategory error)
  | .error _ => True

theorem chatConcludes_of_tour {budget : String → Nat} {candidates : List ProviderEntry}
    {visits : List Visit} {calls : List (Call × UInt64)} {reports : List Report}
    {result : Except FallbackError (Found ChatCompletionResponse)}
    (h : Tour budget candidates 0 {} visits calls reports result) :
    ChatConcludes visits (calls.map (·.1)) (result.map Found.toChat) := by
  have hconcludes := h.concludes
  have hattempted := attempted_recordAll h.dropLast_failed
  match result with
  | .ok found =>
      obtain ⟨hattempts, -, hentry⟩ := hconcludes
      rw [← hattempts] at hattempted
      obtain ⟨v, hv, hfound⟩ := Option.map_eq_some_iff.mp hentry
      refine ⟨hattempted, h.last_succeeded, v, hv, ?_, ?_⟩
      · rw [hfound]
        rfl
      · rw [hfound]
        rfl
  | .error (.providerFailed error attempts) =>
      obtain ⟨rfl, herror⟩ := hconcludes
      obtain ⟨call, hcall, herror⟩ := Option.bind_eq_some_iff.mp herror
      have hlast := forall₂_getLast? hattempted.each
      rw [List.getLast?_map, hcall] at hlast
      generalize hgetLast : (({} : AttemptLog).recordAll calls).attempts.getLast? = last at hlast
      cases hlast with
      | @some _ last hmatches =>
          refine ⟨hattempted, last, hgetLast, ?_, ?_⟩
          · rw [hmatches.success, herror]
            rfl
          · rw [hmatches.errorCategory, herror]
            rfl
  | .error .noProviderAvailable => trivial
  | .error (.admissionRejected _) => trivial

/-- The attempts of `complete_chat` are the calls it made, candidate by candidate in their
order, and the circuit breaker is told of every candidate that was served or has used up its
retries, and of no other. -/
theorem completeChat_attempts_exact (context : FallbackContext)
    (request : ChatCompletionRequest) (s : σ) :
    let r := (completeChat context request).run h s
    let budget := fun provider => (context.policyFor provider).retry.maxRetries.toNat
    ∃ selection visits,
      (⟨.candidateProviders request, selection⟩ : Event Ans) ∈ r.trace ∧
      (visits.map fun v : Visit => (v.entry, v.index)).Sublist selection.candidates.zipIdx ∧
      (∀ v ∈ visits, v.Made budget) ∧
      r.trace.flatMap callsOf = visits.flatMap (·.calls) ∧
      r.trace.flatMap reportsOf = visits.flatMap (Visit.reports budget) ∧
      ChatConcludes visits (r.trace.flatMap callsOf) r.value := by
  intro r budget
  simp only [r, completeChat_eq, fallbackLoop, recordPrefixFingerprint, recordRoutingDecision,
    bind_eq_bind, perform_bind, run_op, run_bind, run_ret, List.append_nil, List.flatMap_cons,
    callsOf, reportsOf, List.nil_append]
  generalize (h (.candidateProviders request) _).1 = selection
  generalize (h (.metrics (.recordRoutingDecision _ _)) _).2 = s'
  generalize hc : FallbackCall.mk context request selection.effectivePolicy = c
  have hbudget : c.budget = budget := by rw [← hc]; rfl
  obtain ⟨visits, htour⟩ :=
    search_tour (answerBy h (chatImpl c)) c.budget selection.candidates 0 {} none s'
  have hconcludes := chatConcludes_of_tour htour
  rw [flatMap_interp (calls_chatImpl c h), ← map_timedCalls, flatMap_interp (reports_chatImpl c h),
    (run_interp _ s').1, ← hbudget]
  exact ⟨selection, visits, by simp, htour.in_order, htour.made, htour.calls_eq, htour.reports_eq,
    hconcludes⟩

/-- A stream that was begun has a last attempt, and it succeeded. -/
theorem completeChatStream_last_succeeded {context : FallbackContext}
    {request : ChatCompletionRequest} {s : σ} {success : StreamingFallbackSuccess}
    (hsuccess : ((completeChatStream context request).run h s).value = .ok success) :
    ∃ last, success.attempts.getLast? = some last ∧ last.success = true := by
  simp only [completeChatStream_eq, fallbackLoop, recordPrefixFingerprint, recordRoutingDecision,
    bind_eq_bind, perform_bind, run_op, run_bind, run_ret, (run_interp _ _).1] at hsuccess
  generalize (h (.candidateProviders request) _).1 = selection at hsuccess
  generalize (h (.metrics (.recordRoutingDecision _ _)) _).2 = s' at hsuccess
  obtain ⟨visits, htour⟩ := search_tour
    (answerBy h (streamImpl ⟨context, request, selection.effectivePolicy⟩)) _
    selection.candidates 0 {} none s'
  generalize ((search _ selection.candidates 0 {} none).run _ s').value = result
    at htour hsuccess
  cases result with
  | error error => cases hsuccess
  | ok found =>
      cases hsuccess
      obtain ⟨last, hlast, hsucceeded, -⟩ := htour.last_succeeded
      exact ⟨last, hlast, hsucceeded⟩

end Gateway
end RustyGate
