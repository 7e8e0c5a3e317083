/-
How long an error counts as recent.

The samples that `recent_provider_errors_by_provider_and_category` counts are pushed by failed
attempts only.  So the window over them moves on with the next failures of the provider and
not with its successes: its length is the number of all failures so far, up to the size of
the window.
-/
import RustyGate.Routing.Affinity
import RustyGate.Telemetry.Counters
import Mathlib.Data.List.DropRight

namespace RustyGate

/-- The attempts at a provider in a history of updates. -/
def attemptsAt (provider : String) (history : List MetricsUpdate) : List ProviderAttempt :=
  (history.flatMap MetricsUpdate.attempts).filter fun a => a.providerName = provider

namespace MetricsRegistry

theorem valuesAt_sampledErrors (attempts : List ProviderAttempt) (p : String) :
    valuesAt p (attempts.filterMap fun a =>
        a.sampledError.map fun category => (a.providerName, category)) =
      (attempts.filter fun a => a.providerName = p).filterMap (·.sampledError) := by
  induction attempts with
  | nil => rfl
  | cons a rest ih =>
      unfold valuesAt at ih ⊢
      by_cases hp : a.providerName = p <;> cases herror : a.sampledError <;>
        simp [hp, herror, ih]

/-- Over a whole history, the samples are the last errors of a provider. -/
theorem providerErrorSamples_history (history : List MetricsUpdate) (p : String) :
    (history.foldl record {}).providerErrorSamples p =
      window maxErrorSamples ((attemptsAt p history).filterMap (·.sampledError)) := by
  have hvalues : history.flatMap MetricsUpdate.providerErrors =
      (history.flatMap MetricsUpdate.attempts).filterMap fun a =>
        a.sampledError.map fun category => (a.providerName, category) := by
    rw [List.filterMap_flatMap]
    rfl
  rw [(sampledFrom_history history).providerError p, hvalues, valuesAt_sampledErrors, attemptsAt]

theorem recentErrorCount_snapshot (m : MetricsRegistry) (p : String) :
    recentErrorCount m.snapshot p = (m.providerErrorSamples p).length := by
  show ((m.recentProviderErrorsByProviderAndCategory p).map Tally.total).getD 0 = _
  unfold recentProviderErrorsByProviderAndCategory
  cases hsamples : m.providerErrorSamples p with
  | nil => rfl
  | cons category rest =>
      rw [List.isEmpty_cons, if_neg Bool.false_ne_true, Option.map_some, Option.getD_some,
        Tally.total_foldl_raise]
      exact Nat.zero_add _

/-- Errors are counted up to the size of the window, however long ago they were. -/
theorem recentErrorCount_history (history : List MetricsUpdate) (p : String) :
    recentErrorCount (history.foldl record {}).snapshot p =
      min ((attemptsAt p history).filterMap (·.sampledError)).length maxErrorSamples := by
  rw [recentErrorCount_snapshot, providerErrorSamples_history, length_window]

end MetricsRegistry

/-- A provider has no recent errors exactly if none of its attempts has ever been sampled as
one. -/
theorem no_recent_errors_iff (history : List MetricsUpdate) (p : String) :
    let snapshot := (history.foldl MetricsRegistry.record {}).snapshot
    (recentErrorCount snapshot p = 0 ∧ providerHasRecentErrors (some snapshot) p = false) ↔
      ∀ a ∈ attemptsAt p history, a.success = true ∨ a.errorCategory = none := by
  intro snapshot
  have hcount : recentErrorCount snapshot p = 0 ↔
      (attemptsAt p history).filterMap (·.sampledError) = [] := by
    rw [MetricsRegistry.recentErrorCount_history, ← List.length_eq_zero_iff]
    have hmax : 0 < maxErrorSamples := by decide
    omega
  have hhas : providerHasRecentErrors (some snapshot) p = false ↔
      recentErrorCount snapshot p = 0 := by
    simp [providerHasRecentErrors]
  rw [hhas, and_self, hcount, List.filterMap_eq_nil_iff]
  refine forall₂_congr fun a _ => ?_
  unfold ProviderAttempt.sampledError
  cases a.success <;> simp

/-- One failure, and as many successes behind it as the window has places. -/
theorem old_error_still_recent :
    let failed : ProviderAttempt := ⟨"p", 1, 5, false, false, some .timeout⟩
    let succeeded : ProviderAttempt := ⟨"p", 1, 5, true, false, none⟩
    let history := MetricsUpdate.recordChatFailure 5 [failed] (some "timeout") ::
      List.replicate maxErrorSamples
        (.recordChatSuccess "p" {} (ProviderPricing.estimateCost {} 0 0) 5 [succeeded])
    let snapshot := (history.foldl MetricsRegistry.record {}).snapshot
    (∀ a ∈ (attemptsAt "p" history).rtake maxErrorSamples, a.success = true) ∧
      maxErrorSamples ≤ (attemptsAt "p" history).length ∧
      recentErrorCount snapshot "p" = 1 ∧ providerHasRecentErrors (some snapshot) "p" = true := by
  intro failed succeeded history snapshot
  have hattempts : attemptsAt "p" history = failed :: List.replicate maxErrorSamples succeeded := by
    have hsame : (List.replicate maxErrorSamples (MetricsUpdate.recordChatSuccess "p" {}
        (ProviderPricing.estimateCost {} 0 0) 5 [succeeded])).flatMap MetricsUpdate.attempts =
        List.replicate maxErrorSamples succeeded := by
      rw [List.flatMap_replicate]
      exact List.flatten_replicate_singleton
    rw [attemptsAt, List.flatMap_cons, hsame]
    simp [MetricsUpdate.attempts, failed, succeeded]
  have hcount : recentErrorCount snapshot "p" = 1 := by
    have hnone : (List.replicate maxErrorSamples succeeded).filterMap (·.sampledError) = [] :=
      List.filterMap_replicate_of_none rfl
    have herror : failed.sampledError = some "timeout" := rfl
    rw [MetricsRegistry.recentErrorCount_history, hattempts, List.filterMap_cons_some herror,
      hnone]
    decide
  have hlength : (attemptsAt "p" history).length = maxErrorSamples + 1 := by
    rw [hattempts, List.length_cons, List.length_replicate]
  refine ⟨?_, by omega, hcount, by simp [providerHasRecentErrors, hcount]⟩
  rw [List.rtake, hlength, Nat.add_sub_cancel_left, hattempts]
  intro a ha
  rw [List.eq_of_mem_replicate ha]

end RustyGate
