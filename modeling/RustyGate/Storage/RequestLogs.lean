/-
The request log in SQLite (`record_request` and the counts of `src/storage/sqlite.rs`).

A call inserts a row for the request and one for each attempt, in one transaction.  The
row of the request is identified by the id that the client may have chosen, the rows of
the attempts by ids that are drawn.  `run_eq` says what a sequence of calls leaves behind:
the rows of the first call of each request id.
-/
import Mathlib.Data.List.Flatten
import RustyGate.Arith.Word
import RustyGate.Collections.Table
import RustyGate.Telemetry.RequestLog

namespace RustyGate

open Word

/-- A row of `request_logs`.  The messages stand for their encoding. -/
structure RequestLogRow where
  id : String
  route : String
  createdAtUnixSeconds : Int
  requestedModel : Option String
  finalProvider : Option String
  status : String
  latencyMs : Int64
  promptTokens : Option Int64
  completionTokens : Option Int64
  totalTokens : Option Int64
  inputCostUsd : Option ℚ
  outputCostUsd : Option ℚ
  totalCostUsd : Option ℚ
  errorCategory : Option String
  promptMessagesJson : Option (List ChatMessage)
  deriving DecidableEq

/-- A row of `provider_attempts`. -/
structure ProviderAttemptRow where
  id : String
  requestId : String
  providerName : String
  attemptOrder : Nat
  success : Int64
  isFallback : Int64
  errorCategory : Option String
  latencyMs : Int64
  deriving DecidableEq

def requestLogRow (entry : RequestLogEntry) : RequestLogRow where
  id := uuidText entry.requestId
  route := entry.route
  createdAtUnixSeconds := entry.createdAtUnixSeconds
  requestedModel := entry.requestedModel
  finalProvider := entry.finalProvider
  status := entry.status.asStr
  latencyMs := entry.latencyMs.toInt64
  promptTokens := entry.usage.map fun usage => i64OfU32 usage.promptTokens
  completionTokens := entry.usage.map fun usage => i64OfU32 usage.completionTokens
  totalTokens := entry.usage.map fun usage => i64OfU32 usage.totalTokens
  inputCostUsd := entry.costEstimate.map (·.inputCostUsd)
  outputCostUsd := entry.costEstimate.map (·.outputCostUsd)
  totalCostUsd := entry.costEstimate.map (·.totalCostUsd)
  errorCategory := entry.errorCategory.map (·.asStr)
  promptMessagesJson := entry.promptMessages

def providerAttemptRow (requestId id : Uuid) (attempt : RequestProviderAttempt) :
    ProviderAttemptRow where
  id := uuidText id
  requestId := uuidText requestId
  providerName := attempt.providerName
  attemptOrder := attempt.attemptOrder
  success := i64OfBool attempt.success
  isFallback := i64OfBool attempt.isFallback
  errorCategory := attempt.errorCategory.map (·.asStr)
  latencyMs := attempt.latencyMs.toInt64

/-- A call of `record_request`, with the ids it draws for the attempts. -/
structure RecordCall where
  entry : RequestLogEntry
  attemptIds : Nat → Uuid

namespace RecordCall

variable (call : RecordCall)

def requestRow : RequestLogRow := requestLogRow call.entry

def attemptRows : List ProviderAttemptRow :=
  call.entry.providerAttempts.mapIdx fun i attempt =>
    providerAttemptRow call.entry.requestId (call.attemptIds i) attempt

theorem requestId_of_mem_attemptRows {row : ProviderAttemptRow} (h : row ∈ call.attemptRows) :
    row.requestId = call.requestRow.id := by
  obtain ⟨i, _, rfl⟩ := List.mem_mapIdx.mp h
  rfl

/-- The ids that are drawn. -/
def drawn : List Uuid := call.entry.providerAttempts.mapIdx fun i _ => call.attemptIds i

theorem map_id_attemptRows :
    call.attemptRows.map ProviderAttemptRow.id = call.drawn.map uuidText := by
  unfold attemptRows drawn
  refine List.ext_getElem (by simp) fun i _ _ => ?_
  simp [providerAttemptRow]

theorem length_attemptRows : call.attemptRows.length = call.entry.providerAttempts.length :=
  List.length_mapIdx

end RecordCall

structure SqliteRequestLogStore where
  requestLogs : List RequestLogRow := []
  providerAttempts : List ProviderAttemptRow := []
  deriving DecidableEq

inductive StorageError where
  | connect
  deriving DecidableEq, Repr

namespace SqliteRequestLogStore

variable (store : SqliteRequestLogStore)

/-- The transaction is rolled back when an insertion fails. -/
def recordRequest (call : RecordCall) : Except StorageError Unit × SqliteRequestLogStore :=
  match Table.insert [RequestLogRow.id] store.requestLogs call.requestRow with
  | none => (.error .connect, store)
  | some requestLogs =>
      match Table.insertAll [ProviderAttemptRow.id] store.providerAttempts call.attemptRows with
      | none => (.error .connect, store)
      | some providerAttempts => (.ok (), ⟨requestLogs, providerAttempts⟩)

/-- A call stores nothing, or the row of its request and those of its attempts. -/
theorem recordRequest_cases (call : RecordCall) :
    (store.recordRequest call).2 = store ∨
      (store.recordRequest call).2 =
        ⟨store.requestLogs ++ [call.requestRow], store.providerAttempts ++ call.attemptRows⟩ := by
  unfold recordRequest
  cases hlogs : Table.insert [RequestLogRow.id] store.requestLogs call.requestRow with
  | none => exact .inl rfl
  | some requestLogs =>
      cases hattempts : Table.insertAll [ProviderAttemptRow.id] store.providerAttempts
        call.attemptRows with
      | none => exact .inl rfl
      | some providerAttempts =>
          refine .inr ?_
          show (⟨requestLogs, providerAttempts⟩ : SqliteRequestLogStore) = _
          rw [(Table.insert_eq_some.mp hlogs).2, Table.eq_append_of_insertAll hattempts]

def countRequestLogs : Nat := store.requestLogs.length

def countProviderAttempts : Nat := store.providerAttempts.length

/-- A sequence of calls.  An error is logged by the caller and nothing else. -/
def run (calls : List RecordCall) : SqliteRequestLogStore :=
  calls.foldl (fun store call => (store.recordRequest call).2) store

/-! ## What is stored -/

/-- The store that holds the rows of the calls. -/
def of (calls : List RecordCall) : SqliteRequestLogStore where
  requestLogs := calls.map RecordCall.requestRow
  providerAttempts := calls.flatMap RecordCall.attemptRows

/-- The calls in the order in which they were made, without those whose request id was
there already. -/
def firstCalls (calls : List RecordCall) : List RecordCall :=
  Table.insertEach [fun call => call.entry.requestId] [] calls

/-- No id is drawn twice. -/
def Fresh (calls : List RecordCall) : Prop := (calls.flatMap RecordCall.drawn).Nodup

instance (calls : List RecordCall) : Decidable (Fresh calls) :=
  inferInstanceAs (Decidable (List.Nodup _))

variable {kept : List RecordCall} {call : RecordCall} {calls : List RecordCall}

theorem mem_map_id_requestLogs :
    call.requestRow.id ∈ (of kept).requestLogs.map RequestLogRow.id ↔
      call.entry.requestId ∈ kept.map fun call => call.entry.requestId := by
  unfold of
  rw [List.map_map, List.mem_map, List.mem_map]
  exact exists_congr fun other => and_congr_right fun _ => uuidText_injective.eq_iff

theorem unique_providerAttempts (h : Fresh calls) :
    Table.Unique ProviderAttemptRow.id (of calls).providerAttempts := by
  unfold Table.Unique of
  rw [List.map_flatMap]
  simp only [RecordCall.map_id_attemptRows]
  rw [← List.map_flatMap]
  exact h.map uuidText_injective

theorem recordRequest_of_mem (h : call.entry.requestId ∈ kept.map fun call => call.entry.requestId)
   :
    ((of kept).recordRequest call).2 = of kept := by
  have hrefused : Table.insert [RequestLogRow.id] (of kept).requestLogs call.requestRow = none :=
    Table.insert_of_mem (mem_map_id_requestLogs.mpr h)
  unfold recordRequest
  rw [hrefused]

theorem recordRequest_of_not_mem
    (h : call.entry.requestId ∉ kept.map fun call => call.entry.requestId)
    (hfresh : Fresh (kept ++ [call])) :
    ((of kept).recordRequest call).2 = of (kept ++ [call]) := by
  have hof : of (kept ++ [call]) =
      ⟨(of kept).requestLogs ++ [call.requestRow],
        (of kept).providerAttempts ++ call.attemptRows⟩ := by
    simp [of]
  have hlogs : Table.insert [RequestLogRow.id] (of kept).requestLogs call.requestRow =
      some ((of kept).requestLogs ++ [call.requestRow]) :=
    Table.insert_of_not_mem (mt mem_map_id_requestLogs.mp h)
  have hattempts : Table.insertAll [ProviderAttemptRow.id] (of kept).providerAttempts
      call.attemptRows = some ((of kept).providerAttempts ++ call.attemptRows) := by
    have hunique := unique_providerAttempts hfresh
    rw [hof] at hunique
    exact Table.insertAll_of_unique hunique
  unfold recordRequest
  rw [hlogs]
  dsimp only
  rw [hattempts, hof]

theorem Fresh.sublist {calls calls' : List RecordCall} (h : Fresh calls)
    (hsub : calls'.Sublist calls) : Fresh calls' :=
  List.Nodup.sublist (hsub.flatMap _) h

/-- The rows of the first call of each request id are stored. -/
theorem run_eq (h : Fresh calls) : run {} calls = of (firstCalls calls) := by
  suffices hgeneral : ∀ kept, Fresh (kept ++ calls) → run (of kept) calls =
      of (Table.insertEach [fun call => call.entry.requestId] kept calls) from hgeneral [] h
  clear h
  induction calls with
  | nil => intro kept _; rfl
  | cons call calls ih =>
      intro kept hfresh
      show run ((of kept).recordRequest call).2 calls = _
      by_cases hmem : call.entry.requestId ∈ kept.map fun call => call.entry.requestId
      · rw [recordRequest_of_mem hmem, Table.insertEach_cons_of_mem hmem]
        exact ih kept (hfresh.sublist ((List.sublist_cons_self call calls).append_left kept))
      · have hnew : Fresh (kept ++ [call] ++ calls) := by rwa [List.append_assoc]
        rw [recordRequest_of_not_mem hmem (hnew.sublist (List.sublist_append_left _ _)),
          Table.insertEach_cons_of_not_mem hmem]
        exact ih (kept ++ [call]) hnew

/-- With request ids that are all different, every call is stored. -/
theorem run_eq_of_nodup (h : Fresh calls)
    (hids : (calls.map fun call => call.entry.requestId).Nodup) : run {} calls = of calls := by
  have hall : firstCalls calls = calls := Table.insertEach_of_unique hids
  rw [run_eq h, hall]

/-- Calls that are all stored have request ids that are all different. -/
theorem nodup_of_length_run (h : Fresh calls)
    (hlength : (run {} calls).countRequestLogs = calls.length) :
    (calls.map fun call => call.entry.requestId).Nodup := by
  rw [run_eq h] at hlength
  have hkept : (firstCalls calls).length = ([] : List RecordCall).length + calls.length := by
    rw [List.length_nil, Nat.zero_add, ← hlength]
    exact (List.length_map _).symm
  exact Table.unique_of_length_insertEach Table.unique_nil hkept

end SqliteRequestLogStore

end RustyGate
