/-
Pruning of the database (`prune_older_than` in `src/storage/sqlite.rs`, and the task of
`src/main.rs` that calls it).

The request log and the usage of the keys are tables of one database.  Requests and usage are
recorded and old rows are pruned, each in a transaction, in any order.  In every state that is
reached, an attempt belongs to a request log (`run_consistent`), so that no deletion of logs is
refused.

The cut-off is a `u64`, and the column it is compared with is signed.  From `2 ^ 63` on, the
cut-off is read as a negative number, and the logs from that number on are kept.  The number of
its day is always small enough.
-/
import RustyGate.Arith.Word
import RustyGate.Auth.Quota
import RustyGate.Storage.RequestLogs

namespace RustyGate

/-- The tables that are pruned, and that of the keys. -/
structure Database where
  logs : SqliteRequestLogStore := {}
  keys : SqliteKeyStore := {}
  deriving DecidableEq

/-- `now` less the retained days, as `src/main.rs` computes it. -/
def retentionCutoff (now retentionDays : UInt64) : UInt64 :=
  Word.saturatingSub now (Word.saturatingMul retentionDays 86400)

/-- `created_at_unix_seconds < ?`. -/
def RequestLogRow.createdBefore (bound : Int) (log : RequestLogRow) : Bool :=
  log.createdAtUnixSeconds < bound

/-- `day_unix < ?`. -/
def UsageRow.dayBefore (bound : Int) (row : UsageRow) : Bool := row.dayUnix.toInt < bound

namespace Database

variable (database : Database)

/-- Attempts first, then the logs they refer to, then usage. -/
def pruneOlderThan (cutoffUnixSeconds : UInt64) : Except StorageError Unit × Database :=
  let old := RequestLogRow.createdBefore cutoffUnixSeconds.toInt64.toInt
  let providerAttempts := Table.delete
    (Table.childrenOf ProviderAttemptRow.requestId RequestLogRow.id old database.logs.requestLogs)
    database.logs.providerAttempts
  match Table.deleteReferenced ProviderAttemptRow.requestId RequestLogRow.id providerAttempts old
      database.logs.requestLogs with
  | none => (.error .connect, database)
  | some requestLogs =>
      (.ok (),
        { logs := ⟨requestLogs, providerAttempts⟩
          keys := { database.keys with
            apiKeyUsageDaily := Table.delete
              (UsageRow.dayBefore (cutoffUnixSeconds / 86400).toInt64.toInt)
              database.keys.apiKeyUsageDaily } })

/-- What is left without the logs created before the cut-off, their attempts, and the usage of
days before the given one. -/
def without (cutoff day : Int) : Database where
  logs :=
    { requestLogs :=
        Table.delete (RequestLogRow.createdBefore cutoff) database.logs.requestLogs
      providerAttempts :=
        Table.delete (Table.childrenOf ProviderAttemptRow.requestId RequestLogRow.id
          (RequestLogRow.createdBefore cutoff) database.logs.requestLogs)
          database.logs.providerAttempts }
  keys :=
    { apiKeys := database.keys.apiKeys
      apiKeyUsageDaily :=
        Table.delete (UsageRow.dayBefore day) database.keys.apiKeyUsageDaily }

end Database

inductive DatabaseOp where
  | recordRequest (call : RecordCall)
  | recordUsage (apiKeyId : String) (totalTokens : UInt64) (totalCostUsd : ℚ)
      (unixSeconds : UInt64)
  | pruneOlderThan (cutoffUnixSeconds : UInt64)

namespace Database

/-- A transaction, whose error is logged or reported by its caller. -/
def step (database : Database) : DatabaseOp → Database
  | .recordRequest call => { database with logs := (database.logs.recordRequest call).2 }
  | .recordUsage apiKeyId totalTokens totalCostUsd unixSeconds =>
      { database with
        keys :=
          (database.keys.recordUsage apiKeyId totalTokens totalCostUsd unixSeconds).2 }
  | .pruneOlderThan cutoffUnixSeconds => (database.pruneOlderThan cutoffUnixSeconds).2

def run (database : Database) (ops : List DatabaseOp) : Database := ops.foldl step database

/-- A database in which nothing has been recorded. -/
def start (apiKeys : List ApiKeyRow) : Database where
  keys := { apiKeys := apiKeys }

/-! ## What every transaction keeps -/

/-- Attempts belong to logs, and days are counted from the epoch on. -/
structure Consistent (database : Database) : Prop where
  attempts : Table.References ProviderAttemptRow.requestId RequestLogRow.id
    database.logs.providerAttempts database.logs.requestLogs
  days : ∀ row ∈ database.keys.apiKeyUsageDaily, 0 ≤ row.dayUnix.toInt

variable {database : Database}

theorem start_consistent (apiKeys : List ApiKeyRow) : (start apiKeys).Consistent where
  attempts := fun _ h => absurd h List.not_mem_nil
  days := fun _ h => absurd h List.not_mem_nil

/-- A day is far from the sign. -/
theorem toInt_day (unixSeconds : UInt64) :
    (unixSeconds / 86400).toInt64.toInt = (unixSeconds.toNat / 86400 : Nat) := by
  have hday : (unixSeconds / 86400).toNat = unixSeconds.toNat / 86400 := UInt64.toNat_div _ _
  have hlt := unixSeconds.toNat_lt
  rw [Word.toInt_toInt64, hday, if_pos (by omega)]

section Consistent

variable (h : database.Consistent)

include h

theorem Consistent.recordRequest (call : RecordCall) :
    (database.step (.recordRequest call)).Consistent := by
  refine ⟨?_, h.days⟩
  show Table.References _ _ (database.logs.recordRequest call).2.providerAttempts
    (database.logs.recordRequest call).2.requestLogs
  rcases database.logs.recordRequest_cases call with hsame | hstored
  · rw [hsame]
    exact h.attempts
  · rw [hstored]
    apply h.attempts.append
    intro row hrow
    rw [call.requestId_of_mem_attemptRows hrow, List.map_append]
    exact List.mem_append_right _ (List.mem_singleton_self _)

theorem Consistent.recordUsage (apiKeyId : String)
    (totalTokens : UInt64) (totalCostUsd : ℚ) (unixSeconds : UInt64) :
    (database.step (.recordUsage apiKeyId totalTokens totalCostUsd unixSeconds)).Consistent := by
  refine ⟨h.attempts, ?_⟩
  show ∀ row ∈ (database.keys.recordUsage apiKeyId totalTokens totalCostUsd
    unixSeconds).2.apiKeyUsageDaily, _
  unfold SqliteKeyStore.recordUsage
  by_cases hknown : apiKeyId ∈ database.keys.apiKeys.map ApiKeyRow.id
  · rw [if_pos hknown]
    apply Table.forall_mem_upsert h.days
    · show 0 ≤ (unixSeconds / 86400).toInt64.toInt
      rw [toInt_day]
      exact Int.natCast_nonneg _
    · intro row hrow
      exact hrow
  · rw [if_neg hknown]
    exact h.days

/-- The attempts of the old logs are gone when the logs are deleted. -/
theorem Consistent.pruneOlderThan_eq (cutoffUnixSeconds : UInt64) :
    database.pruneOlderThan cutoffUnixSeconds =
      (.ok (), database.without cutoffUnixSeconds.toInt64.toInt
        (cutoffUnixSeconds.toNat / 86400 : Nat)) := by
  have hdelete := Table.deleteReferenced_of_references
    (h.attempts.delete (RequestLogRow.createdBefore cutoffUnixSeconds.toInt64.toInt))
  unfold pruneOlderThan without
  dsimp only
  rw [hdelete, toInt_day]

theorem Consistent.without (cutoff day : Int) :
    (database.without cutoff day).Consistent where
  attempts := h.attempts.delete _
  days := fun row hrow => h.days row (Table.mem_delete.mp hrow).1

theorem Consistent.step (op : DatabaseOp) :
    (database.step op).Consistent := by
  cases op with
  | recordRequest call => exact h.recordRequest call
  | recordUsage apiKeyId totalTokens totalCostUsd unixSeconds =>
      exact h.recordUsage apiKeyId totalTokens totalCostUsd unixSeconds
  | pruneOlderThan cutoffUnixSeconds =>
      show (database.pruneOlderThan cutoffUnixSeconds).2.Consistent
      rw [h.pruneOlderThan_eq]
      exact h.without _ _

theorem Consistent.run (ops : List DatabaseOp) :
    (database.run ops).Consistent := by
  induction ops generalizing database with
  | nil => exact h
  | cons op ops ih => exact ih (h.step op)

end Consistent

theorem run_consistent (apiKeys : List ApiKeyRow) (ops : List DatabaseOp) :
    ((start apiKeys).run ops).Consistent := (start_consistent apiKeys).run ops

/-! ## What pruning removes -/

/-- Cut-offs that agree on the logs that are there agree on everything. -/
theorem without_eq_without_iff {cutoff cutoff' day : Int} :
    database.without cutoff day = database.without cutoff' day ↔
      ∀ log ∈ database.logs.requestLogs, log.createdBefore cutoff = log.createdBefore cutoff' := by
  constructor
  · intro h
    have hlogs := congrArg (fun database => database.logs.requestLogs) h
    exact Table.delete_eq_delete_iff.mp hlogs
  · intro h
    have hlogs := Table.delete_eq_delete_iff.mpr h
    have hold : database.logs.requestLogs.filter (RequestLogRow.createdBefore cutoff) =
        database.logs.requestLogs.filter (RequestLogRow.createdBefore cutoff') :=
      List.filter_congr h
    unfold Database.without Table.childrenOf
    rw [hlogs, hold]

/-- The cut-off and its signed reading agree on a log unless the log was created between them. -/
theorem createdBefore_signed_iff (cutoff : UInt64) (log : RequestLogRow) :
    log.createdBefore cutoff.toInt64.toInt = log.createdBefore cutoff.toNat ↔
      cutoff.toNat < 2 ^ 63 ∨ (log.createdAtUnixSeconds < cutoff.toNat →
        log.createdAtUnixSeconds < (cutoff.toNat : Int) - 2 ^ 64) := by
  unfold RequestLogRow.createdBefore
  rw [Word.toInt_toInt64, decide_eq_decide]
  split <;> omega

theorem Consistent.pruneOlderThan_eq_iff (h : database.Consistent) (cutoff : UInt64) :
    database.pruneOlderThan cutoff =
        (.ok (), database.without cutoff.toNat (cutoff.toNat / 86400 : Nat)) ↔
      cutoff.toNat < 2 ^ 63 ∨ ∀ log ∈ database.logs.requestLogs,
        log.createdAtUnixSeconds < cutoff.toNat →
          log.createdAtUnixSeconds < (cutoff.toNat : Int) - 2 ^ 64 := by
  rw [h.pruneOlderThan_eq, Prod.mk.injEq, and_iff_right rfl, without_eq_without_iff]
  by_cases hsmall : cutoff.toNat < 2 ^ 63
  · refine iff_of_true (fun log _ => ?_) (.inl hsmall)
    exact (createdBefore_signed_iff cutoff log).mpr (.inl hsmall)
  · rw [or_iff_right hsmall]
    refine forall₂_congr fun log _ => ?_
    rw [createdBefore_signed_iff, or_iff_right hsmall]

/-- The difference saturates exactly where it would be negative. -/
theorem toNat_retentionCutoff (now retentionDays : UInt64) :
    (retentionCutoff now retentionDays).toNat = now.toNat - retentionDays.toNat * 86400 := by
  have hnow := Word.toNat_le_greatest now
  have hday : (86400 : UInt64).toNat = 86400 := rfl
  unfold retentionCutoff
  rw [Word.toNat_saturatingSub, Word.toNat_saturatingMul, hday]
  omega

/-- A day that is retained is not before the day of the cut-off. -/
theorem cutoffDay_le {now retentionDays : UInt64} {day : Int} (hday : 0 ≤ day)
    (hretained : ((currentDayUnix now).toNat : Int) - retentionDays.toNat ≤ day) :
    (((retentionCutoff now retentionDays).toNat / 86400 : Nat) : Int) ≤ day := by
  have htoday : (currentDayUnix now).toNat = now.toNat / 86400 := UInt64.toNat_div _ _
  rw [htoday] at hretained
  rw [toNat_retentionCutoff]
  omega

theorem Consistent.retained (h : database.Consistent) {now retentionDays : UInt64} {row : UsageRow}
    (hrow : row ∈ database.keys.apiKeyUsageDaily)
    (hretained : ((currentDayUnix now).toNat : Int) - retentionDays.toNat ≤ row.dayUnix.toInt) :
    row ∈ (database.pruneOlderThan
      (retentionCutoff now retentionDays)).2.keys.apiKeyUsageDaily := by
  rw [h.pruneOlderThan_eq]
  have hday := cutoffDay_le (h.days row hrow) hretained
  refine Table.mem_delete.mpr ⟨hrow, ?_⟩
  exact decide_eq_false (not_lt.mpr hday)

end Database

/-- In every state that is reached, attempts belong to logs.  Pruning there removes exactly the
logs created before the cut-off with their attempts, and the usage of the days before, if and
only if the cut-off is in the signed range or reading it as a negative number makes no
difference to the logs.  With the cut-off of the retention task, the usage of the current day
and of the retained days before it stays. -/
theorem prune_exactly (apiKeys : List ApiKeyRow) (ops : List DatabaseOp) :
    let database := (Database.start apiKeys).run ops
    (∀ attempt ∈ database.logs.providerAttempts,
      ∃ log ∈ database.logs.requestLogs, log.id = attempt.requestId) ∧
    (∀ cutoff : UInt64,
      database.pruneOlderThan cutoff =
          (.ok (), database.without cutoff.toNat (cutoff.toNat / 86400 : Nat)) ↔
        cutoff.toNat < 2 ^ 63 ∨ ∀ log ∈ database.logs.requestLogs,
          log.createdAtUnixSeconds < cutoff.toNat →
            log.createdAtUnixSeconds < (cutoff.toNat : Int) - 2 ^ 64) ∧
    ∀ now retentionDays : UInt64, ∀ row ∈ database.keys.apiKeyUsageDaily,
      ((currentDayUnix now).toNat : Int) - retentionDays.toNat ≤ row.dayUnix.toInt →
        row ∈ (database.pruneOlderThan
          (retentionCutoff now retentionDays)).2.keys.apiKeyUsageDaily := by
  have hconsistent := Database.run_consistent apiKeys ops
  refine ⟨?_, ?_, ?_⟩
  · intro attempt hattempt
    exact List.mem_map.mp (hconsistent.attempts attempt hattempt)
  · intro cutoff
    exact hconsistent.pruneOlderThan_eq_iff cutoff
  · intro now retentionDays row hrow hretained
    exact hconsistent.retained hrow hretained

/-- A request that failed at its only provider at the given time. -/
def loggedCall (createdAtUnixSeconds : Int) : RecordCall where
  entry := .new createdAtUnixSeconds 1 "/v1/chat/completions" none none .failure 7 none none
    (some .timeout) [⟨"mock-primary", 1, 7, false, false, some .timeout⟩] {}
  attemptIds := fun _ => 10

/-- A key with usage on the day `19675` and the request of two days before. -/
def retainedRun : Database :=
  (Database.start
    [⟨"key", "prefix", "hash", "label", "user", none, none, none, 1, 1700000000, none⟩]).run
    [.recordRequest (loggedCall 1699800000), .recordUsage "key" 5 0 1700000000]

/-- With one day of retention the request is pruned and the usage stays. -/
theorem prune_exactly_oneDay :
    (∀ attempt ∈ retainedRun.logs.providerAttempts,
      ∃ log ∈ retainedRun.logs.requestLogs, log.id = attempt.requestId) ∧
    retainedRun.pruneOlderThan (retentionCutoff 1700000000 1) =
      (.ok (), retainedRun.without 1699913600 19674) ∧
    ⟨"key", 19675, 1, 5, 0⟩ ∈ (retainedRun.pruneOlderThan
      (retentionCutoff 1700000000 1)).2.keys.apiKeyUsageDaily := by
  obtain ⟨hattempts, hexact, hretained⟩ := prune_exactly
    [⟨"key", "prefix", "hash", "label", "user", none, none, none, 1, 1700000000, none⟩]
    [.recordRequest (loggedCall 1699800000), .recordUsage "key" 5 0 1700000000]
  refine ⟨hattempts, (hexact _).mpr (.inl (by decide +kernel)), ?_⟩
  exact hretained 1700000000 1 _ (by decide +kernel) (by decide +kernel)

/-- From `2 ^ 63` on, a cut-off spares a log that was created before it. -/
theorem prune_spares_old_log :
    let database := (Database.start []).run [.recordRequest (loggedCall 1700000000)]
    (∃ log ∈ database.logs.requestLogs,
      log.createdAtUnixSeconds < (9223372036854775808 : UInt64).toNat ∧
      log ∈ (database.pruneOlderThan 9223372036854775808).2.logs.requestLogs) ∧
    (database.pruneOlderThan 9223372036854775808).2 = database := by
  decide +kernel

end RustyGate
