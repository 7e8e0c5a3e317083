/-
What a search does, call by call.

The attempts of a candidate are its calls, in order.  Whether they are reported at all depends
on how the search ends, and `verdict` and `admitted` say how it ends without running it.
-/
import RustyGate.Routing.Episodes

namespace RustyGate

open Effect Effect.Program

/-! ## How a search ends

From here on the answers are given, one for each operation. -/

/-- Where no outcome is empty, no candidate ends that way. -/
theorem verdict_ne_emptied {α : Type} {outcome : Site → Outcome α}
    (h : ∀ site, outcome site ≠ .empty) (index left retry : Nat) :
    verdict outcome index left retry ≠ .emptied := by
  rw [verdict.eq_def]
  simp only
  cases houtcome : outcome ⟨index, retry⟩ with
  | served value => simp
  | empty => exact absurd houtcome (h _)
  | failed error =>
      simp only
      cases fallbackDecision error with
      | stop => simp
      | tryNextProvider =>
          cases left with
          | zero => simp
          | succ left => exact verdict_ne_emptied h index left (retry + 1)

section Answers

variable {α : Type} (a : (o : SearchOp) → SearchAns α o)

/-- The candidate gets past its circuit and its admission limit. -/
def admitted (x : ProviderEntry × Nat) : Bool :=
  a (.allow x.2 x.1.name) && (a (.reserve x.2 x.1.name)).isOk

def answeredOutcome (entry : ProviderEntry) (site : Site) : Outcome α :=
  (a (.call site entry)).1

/-- The value and the calls of a run. -/
def summary {β : Type} (p : Search α β) : β × List Call :=
  ((p.runWith a).value, (p.runWith a).trace.flatMap searchCalls)

/-! ## One candidate -/

variable (budget : String → Nat) {entry : ProviderEntry}

/-- A candidate that is not admitted is passed over without a call. -/
theorem search_skip {index : Nat} (h : admitted a (entry, index) = false)
    (rest : List ProviderEntry) (log : AttemptLog) (rejection : Option AdmissionRejection) :
    ∃ rejection', summary a (search budget (entry :: rest) index log rejection) =
      summary a (search budget rest (index + 1) log rejection') := by
  rw [search]
  simp only [summary, bind_eq_bind, perform_bind, runWith_op]
  cases hallow : a (.allow index entry.name) with
  | false => exact ⟨rejection, rfl⟩
  | true =>
      simp only [runWith_op]
      cases hreserve : a (.reserve index entry.name) with
      | error rejected => exact ⟨some rejected, rfl⟩
      | ok guard =>
          rw [admitted, hallow, hreserve] at h
          cases h

/-- The run of a search whose first candidate is admitted: its calls come first, and
how they end decides the rest. -/
theorem search_admitted {index : Nat} (h : admitted a (entry, index) = true)
    (rest : List ProviderEntry) (log : AttemptLog) (rejection : Option AdmissionRejection) :
    ∃ guard,
      let calls := summary a (searchRetries entry index guard (!rest.isEmpty)
        (budget entry.name) 0 none log)
      summary a (search budget (entry :: rest) index log rejection) =
        match calls.1 with
        | .returned result => (result, calls.2)
        | .left last log' =>
            if rest.isEmpty ∧ last.isSome then
              (.error (.providerFailed (last.getD .providerBadResponse) log'.attempts), calls.2)
            else
              let later := summary a (search budget rest (index + 1) log' rejection)
              (later.1, calls.2 ++ later.2) := by
  cases hallow : a (.allow index entry.name) with
  | false =>
      rw [admitted, hallow] at h
      cases h
  | true =>
      cases hreserve : a (.reserve index entry.name) with
      | error rejected =>
          rw [admitted, hallow, hreserve] at h
          cases h
      | ok guard =>
          refine ⟨guard, ?_⟩
          rw [search]
          simp only [summary, bind_eq_bind, perform_bind, runWith_op, hallow, hreserve,
            runWith_bind]
          generalize (searchRetries entry index guard (!rest.isEmpty)
            (budget entry.name) 0 none log).runWith a = r
          obtain ⟨trace, exit, s⟩ := r
          cases exit with
          | returned result => cases result <;> simp [searchCalls]
          | left last log' =>
              cases last with
              | none => simp [searchCalls]
              | some error =>
                  cases rest with
                  | nil => simp [searchCalls]
                  | cons next rest => simp [searchCalls]

/-- How the calls of a candidate end, with its full number of retries. -/
def verdictOf (x : ProviderEntry × Nat) : Verdict :=
  verdict (answeredOutcome a x.1) x.2 (budget x.1.name) 0

/-- A result that is no success says how many calls were made: it carries all of them,
or there were none. -/
def Kept {β : Type} (calls : List Call) : Except FallbackError β → Prop
  | .ok _ => True
  | .error (.providerFailed _ attempts) => List.Forall₂ Call.Matches calls attempts
  | .error _ => calls = []

instance (c : Call) (a : ProviderAttempt) : Decidable (c.Matches a) :=
  decidable_of_iff (a.providerName = c.provider ∧ a.isFallback = decide (0 < c.site.candidate) ∧
      a.success = c.error.isNone ∧ a.errorCategory = c.error.map providerErrorCategory)
    ⟨fun h => ⟨h.1, h.2.1, h.2.2.1, h.2.2.2⟩, fun h => ⟨h.1, h.2, h.3, h.4⟩⟩

instance {β : Type} (calls : List Call) (result : Except FallbackError β) :
    Decidable (Kept calls result) :=
  match result with
  | .ok _ => isTrue trivial
  | .error (.providerFailed _ attempts) =>
      inferInstanceAs (Decidable (List.Forall₂ Call.Matches calls attempts))
  | .error .noProviderAvailable => inferInstanceAs (Decidable (calls = []))
  | .error (.admissionRejected _) => inferInstanceAs (Decidable (calls = []))

theorem Settles.kept {timed : List (Call × UInt64)} {log : AttemptLog}
    {result : Except FallbackError (Found α)} {ver : Verdict} {calls : List Call}
    (h : Settles entry timed log result ver)
    (hcalls : List.Forall₂ Call.Matches calls (log.recordAll timed).attempts) :
    Kept calls result := by
  cases ver with
  | served =>
      obtain ⟨value, guard, rfl⟩ := h
      trivial
  | stopped | spent | emptied =>
      obtain ⟨error, -, rfl⟩ := h
      exact hcalls

/-- The calls of an admitted candidate: at least one, and none but the last may be
followed by another unless it is retryable. -/
structure CandidateCalls (ver : Verdict) (calls : List Call) : Prop where
  ne_nil : calls ≠ []
  dropLast : calls.dropLast.all Call.retryable = true
  all : calls.all Call.retryable = true ↔ ver = .spent

/-- An admitted candidate ends the search and its calls are reported, or the search
goes on behind it with its calls in the log. -/
theorem search_admitted_cases {index : Nat} (h : admitted a (entry, index) = true)
    (rest : List ProviderEntry) (log : AttemptLog) (rejection : Option AdmissionRejection) :
    ∃ calls, CandidateCalls (verdictOf a budget (entry, index)) calls ∧
      ((∃ result, summary a (search budget (entry :: rest) index log rejection) =
            (result, calls) ∧
          (rest = [] ∨ verdictOf a budget (entry, index) = .served ∨
            verdictOf a budget (entry, index) = .stopped) ∧
          ∀ prior, List.Forall₂ Call.Matches prior log.attempts →
            Kept (prior ++ calls) result) ∨
        ∃ log', rest ≠ [] ∧
          (verdictOf a budget (entry, index) = .spent ∨
            verdictOf a budget (entry, index) = .emptied) ∧
          (∀ prior, List.Forall₂ Call.Matches prior log.attempts →
            List.Forall₂ Call.Matches (prior ++ calls) log'.attempts) ∧
          summary a (search budget (entry :: rest) index log rejection) =
            ((summary a (search budget rest (index + 1) log' rejection)).1,
              calls ++ (summary a (search budget rest (index + 1) log' rejection)).2)) := by
  obtain ⟨guard, hrun⟩ := search_admitted a budget h rest log rejection
  obtain ⟨ver, hepisode, hleaves, hver⟩ := searchRetries_episode (fun o s => (a o, s)) () entry
    index guard (!rest.isEmpty) (budget entry.name) 0 none log
  obtain rfl : ver = verdictOf a budget (entry, index) :=
    hver (answeredOutcome a entry) fun _ _ => rfl
  rw [hrun]
  simp only [← runWith.eq_def] at hepisode hleaves
  simp only [summary]
  generalize (searchRetries entry index guard (!rest.isEmpty)
    (budget entry.name) 0 none log).runWith a = r at hepisode hleaves ⊢
  obtain ⟨trace, exit, s⟩ := r
  simp only at hepisode hleaves
  have hcalls : CandidateCalls (verdictOf a budget (entry, index)) (trace.flatMap searchCalls) := by
    rw [← map_timedCalls]
    exact ⟨by simpa using hepisode.calls_ne_nil, hepisode.retryable.1, hepisode.retryable.2⟩
  have hlogged := fun (prior : List Call)
      (hprior : List.Forall₂ Call.Matches prior log.attempts) =>
    AttemptLog.recordAll_matches hprior (trace.flatMap timedCalls)
  simp only [map_timedCalls] at hlogged
  refine ⟨trace.flatMap searchCalls, hcalls, ?_⟩
  cases exit with
  | returned result =>
      obtain ⟨hsettles, hend⟩ := hleaves.settles
      refine Or.inl ⟨result, rfl, hend.imp (by simp) id, fun prior hp => ?_⟩
      exact hsettles.kept (hlogged prior hp)
  | left last log' =>
      obtain ⟨rfl, hver, hlast⟩ := hleaves.left
      cases rest with
      | nil =>
          obtain ⟨error, rfl, -⟩ := hlast rfl
          exact Or.inl ⟨.error (.providerFailed error _), by simp, Or.inl rfl, hlogged⟩
      | cons next rest => exact Or.inr ⟨_, by simp, hver, hlogged, by simp⟩

theorem search_calls_eq_nil (candidates : List ProviderEntry) (index : Nat) (log : AttemptLog)
    (rejection : Option AdmissionRejection) :
    (summary a (search budget candidates index log rejection)).2 = [] ↔
      ∀ x ∈ candidates.zipIdx index, admitted a x = false := by
  induction candidates generalizing index rejection with
  | nil => cases rejection <;> simp [search, summary]
  | cons entry rest ih =>
      rw [List.zipIdx_cons]
      cases hadm : admitted a (entry, index) with
      | false =>
          obtain ⟨rejection', hskip⟩ := search_skip a budget hadm rest log rejection
          rw [hskip, ih]
          simp [hadm]
      | true =>
          refine iff_of_false ?_ (by simp [hadm])
          obtain ⟨calls, hcalls, ⟨result, hrun, -⟩ | ⟨log', -, -, -, hrun⟩⟩ :=
            search_admitted_cases a budget hadm rest log rejection
          · rw [hrun]
            exact hcalls.ne_nil
          · rw [hrun]
            exact fun h => hcalls.ne_nil (List.append_eq_nil_iff.mp h).1

/-! ## Reported attempts -/

/-- No candidate is admitted, or the last one is, or an admitted one ends the search. -/
def NoAttemptLost (adm : ProviderEntry × Nat → Bool) (ver : ProviderEntry × Nat → Verdict)
    (xs : List (ProviderEntry × Nat)) : Prop :=
  (∀ x ∈ xs, adm x = false) ∨ (∃ x ∈ xs.getLast?, adm x = true) ∨
    ∃ x ∈ xs, adm x = true ∧ (ver x = .served ∨ ver x = .stopped)

/-- `Kept` for a search that goes on after the calls in `prior`: no call was made at
all, or the last candidate is admitted, or an admitted one ends the search. -/
theorem search_kept_iff (candidates : List ProviderEntry) (index : Nat) {log : AttemptLog}
    (rejection : Option AdmissionRejection) {prior : List Call}
    (hlog : List.Forall₂ Call.Matches prior log.attempts) :
    Kept (prior ++ (summary a (search budget candidates index log rejection)).2)
        (summary a (search budget candidates index log rejection)).1 ↔
      (prior = [] ∧ ∀ x ∈ candidates.zipIdx index, admitted a x = false) ∨
        (∃ x ∈ (candidates.zipIdx index).getLast?, admitted a x = true) ∨
        ∃ x ∈ candidates.zipIdx index, admitted a x = true ∧
          (verdictOf a budget x = .served ∨ verdictOf a budget x = .stopped) := by
  induction candidates generalizing index log rejection prior with
  | nil => cases rejection <;> simp [search, summary, exhausted, Kept]
  | cons entry rest ih =>
      rw [List.zipIdx_cons]
      cases hadm : admitted a (entry, index) with
      | false =>
          obtain ⟨rejection', hskip⟩ := search_skip a budget hadm rest log rejection
          rw [hskip, ih (index + 1) rejection' hlog]
          cases rest <;> simp [hadm]
      | true =>
          obtain ⟨calls, hcalls, ⟨result, hrun, hend, hkept⟩ | ⟨log', hrest, hver, hlog', hrun⟩⟩ :=
            search_admitted_cases a budget hadm rest log rejection
          · rw [hrun]
            refine iff_of_true (hkept prior hlog) (Or.inr ?_)
            rcases hend with rfl | hend
            · exact Or.inl ⟨(entry, index), rfl, hadm⟩
            · exact Or.inr ⟨(entry, index), List.mem_cons_self, hadm, hend⟩
          · -- The calls made so far are not empty, so only what is ahead counts.
            rw [hrun, ← List.append_assoc, ih (index + 1) rejection (hlog' prior hlog)]
            have hnil : prior ++ calls ≠ [] := by simp [hcalls.ne_nil]
            obtain ⟨next, rest, rfl⟩ := List.exists_cons_of_ne_nil hrest
            rcases hver with hver | hver <;> simp [hadm, hver, hnil]

/-! ## Calls after a failure -/

/-- Reached, an admitted candidate whose stream is empty is followed by an admitted
one. -/
def PassesEmpty (adm : ProviderEntry × Nat → Bool) (ver : ProviderEntry × Nat → Verdict)
    (xs : List (ProviderEntry × Nat)) : Prop :=
  ∃ before x after, xs = before ++ x :: after ∧
    (∀ y ∈ before, adm y = true → ver y = .spent ∨ ver y = .emptied) ∧
    adm x = true ∧ ver x = .emptied ∧ ∃ z ∈ after, adm z = true

theorem passesEmpty_nil (adm : ProviderEntry × Nat → Bool) (ver : ProviderEntry × Nat → Verdict) :
    ¬ PassesEmpty adm ver [] := by
  rintro ⟨before, x, after, h, -⟩
  simp at h

theorem passesEmpty_cons (adm : ProviderEntry × Nat → Bool) (ver : ProviderEntry × Nat → Verdict)
    (x : ProviderEntry × Nat) (xs : List (ProviderEntry × Nat)) :
    PassesEmpty adm ver (x :: xs) ↔
      (adm x = true ∧ ver x = .emptied ∧ ∃ z ∈ xs, adm z = true) ∨
        ((adm x = true → ver x = .spent ∨ ver x = .emptied) ∧ PassesEmpty adm ver xs) := by
  constructor
  · rintro ⟨before, y, after, hxs, hbefore, hy⟩
    cases before with
    | nil =>
        obtain ⟨rfl, rfl⟩ := List.cons.inj hxs
        exact Or.inl hy
    | cons z before =>
        obtain ⟨rfl, rfl⟩ := List.cons.inj hxs
        exact Or.inr ⟨hbefore _ List.mem_cons_self, before, y, after, rfl,
          fun w hw => hbefore w (List.mem_cons_of_mem _ hw), hy⟩
  · rintro (hx | ⟨hx, before, y, after, rfl, hbefore, hy⟩)
    · exact ⟨[], x, xs, rfl, by simp, hx⟩
    · refine ⟨x :: before, y, after, rfl, fun w hw => ?_, hy⟩
      rcases List.mem_cons.mp hw with rfl | hw
      · exact hx
      · exact hbefore w hw

/-- Every call that is followed by another failed retryably, unless the search passes
an empty stream. -/
theorem search_dropLast_iff (candidates : List ProviderEntry) (index : Nat) (log : AttemptLog)
    (rejection : Option AdmissionRejection) :
    (summary a (search budget candidates index log rejection)).2.dropLast.all
        Call.retryable = true ↔
      ¬ PassesEmpty (admitted a) (verdictOf a budget) (candidates.zipIdx index) := by
  induction candidates generalizing index log rejection with
  | nil =>
      refine iff_of_true ?_ (passesEmpty_nil _ _)
      cases rejection <;> simp [search, summary]
  | cons entry rest ih =>
      rw [List.zipIdx_cons, passesEmpty_cons]
      cases hadm : admitted a (entry, index) with
      | false =>
          obtain ⟨rejection', hskip⟩ := search_skip a budget hadm rest log rejection
          rw [hskip, ih]
          simp
      | true =>
          obtain ⟨calls, hcalls, ⟨result, hrun, hend, -⟩ | ⟨log', hrest, hver, -, hrun⟩⟩ :=
            search_admitted_cases a budget hadm rest log rejection
          · rw [hrun]
            refine iff_of_true hcalls.dropLast ?_
            rcases hend with rfl | hend | hend
            · simp [passesEmpty_nil]
            · simp [hend]
            · simp [hend]
          · rw [hrun]
            have hnil := search_calls_eq_nil a budget rest (index + 1) log' rejection
            have hlater := ih (index + 1) log' rejection
            generalize (summary a (search budget rest (index + 1) log' rejection)).2 =
              later at hnil hlater ⊢
            by_cases hl : later = []
            · have hnone := hnil.mp hl
              subst hl
              rw [List.append_nil]
              refine iff_of_true hcalls.dropLast ?_
              have hpass := hlater.mp rfl
              rintro (⟨-, -, z, hz, hz'⟩ | ⟨-, hp⟩)
              · rw [hnone z hz] at hz'
                cases hz'
              · exact hpass hp
            · have hsome : ∃ z ∈ rest.zipIdx (index + 1), admitted a z = true := by
                by_contra hnone
                refine hl (hnil.mpr fun z hz => ?_)
                by_contra hz'
                exact hnone ⟨z, hz, by simpa using hz'⟩
              rw [List.dropLast_append_of_ne_nil hl, List.all_append, Bool.and_eq_true,
                hcalls.all, hlater]
              rcases hver with hver | hver <;> simp [hver, hsome]

end Answers
end RustyGate
