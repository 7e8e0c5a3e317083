/-
The response cache in SQLite (`SqliteResponseCache` of `src/cache/response.rs`).

A row has the answer as text and the second in which it expires.  Storing replaces the row of the
key, reading takes a row only before it expires, and pruning deletes what has expired.

The abstract cache is a log of what was stored (`Expiring.lookup`).  `Shows` relates the two: a row
is the newest entry of its key, and the newest entry of a key has a row unless it has expired.
-/
import RustyGate.Arith.Word
import RustyGate.Collections.Log
import RustyGate.Collections.Table
import RustyGate.Models.ChatJson

namespace RustyGate

/-- A row of `cache_entries`. -/
structure CacheEntryRow where
  cacheKey : String
  responseJson : String
  expiresAtUnixSeconds : Int64
  deriving DecidableEq

structure SqliteResponseCache where
  cacheEntries : List CacheEntryRow := []
  deriving DecidableEq

/-- `serde_json::from_str`. -/
def ChatCompletionResponse.fromStr (text : String) : Option ChatCompletionResponse :=
  (Json.parse text.toList).bind fromJson

/-- `serde_json::to_string`, which cannot fail on this type. -/
def ChatCompletionResponse.toStr (response : ChatCompletionResponse) : String :=
  String.ofList response.toJson.render

theorem ChatCompletionResponse.fromStr_toStr {response : ChatCompletionResponse}
    (h : Json.IsI64 response.created) : fromStr response.toStr = some response := by
  rw [fromStr, toStr, String.toList_ofList,
    Json.parse_render response.readable_toJson]
  exact fromJson_toJson h

namespace SqliteResponseCache

/-- `now` is the reading of the clock, in seconds. -/
def get (cache : SqliteResponseCache) (now : UInt64) (key : String) :
    Option ChatCompletionResponse :=
  (cache.cacheEntries.find? fun row =>
    row.cacheKey = key && decide (now.toInt64 < row.expiresAtUnixSeconds)).bind
      fun row => ChatCompletionResponse.fromStr row.responseJson

def put (cache : SqliteResponseCache) (now : UInt64) (key : String)
    (response : ChatCompletionResponse) (ttl : UInt64) : SqliteResponseCache :=
  let responseJson := response.toStr
  let expiresAt := (Word.saturatingAdd now ttl).toInt64
  { cacheEntries := Table.upsert (fun row => row.cacheKey = key) ⟨key, responseJson, expiresAt⟩
      (fun row => { row with responseJson := responseJson, expiresAtUnixSeconds := expiresAt })
      cache.cacheEntries }

def pruneExpired (cache : SqliteResponseCache) (now : UInt64) : SqliteResponseCache :=
  { cacheEntries :=
      Table.delete (fun row => row.expiresAtUnixSeconds ≤ now.toInt64) cache.cacheEntries }

end SqliteResponseCache

/-! ## What a row stands for -/

/-- The second from which an answer is no longer used.  One that does not fit the column is
negative there, so that the answer is never used. -/
def cacheExpiry (now ttl : UInt64) : Nat :=
  if now.toNat + ttl.toNat < 2 ^ 63 then now.toNat + ttl.toNat else 0

theorem lt_expiresAt_iff {now : UInt64} (hnow : now.toNat < 2 ^ 63) (stored ttl : UInt64) :
    now.toInt64 < (Word.saturatingAdd stored ttl).toInt64 ↔
      now.toNat < cacheExpiry stored ttl := by
  have hstored := stored.toNat_lt
  have hadd := Word.toNat_saturatingAdd stored ttl
  rw [Int64.lt_iff_toInt_lt, Word.toInt_toInt64, Word.toInt_toInt64, if_pos hnow, cacheExpiry]
  unfold Word.greatest at hadd
  split <;> split <;> omega

structure CacheEntryRow.Holds (row : CacheEntryRow)
    (e : Expiring.Entry String ChatCompletionResponse) : Prop where
  response : ChatCompletionResponse.fromStr row.responseJson = some e.value
  expiry : ∀ {now : UInt64}, now.toNat < 2 ^ 63 →
    (now.toInt64 < row.expiresAtUnixSeconds ↔ now.toNat < e.expires)

/-- What is found in the cache from `now` on is what the log says. -/
structure SqliteResponseCache.Shows (cache : SqliteResponseCache)
    (log : List (Expiring.Entry String ChatCompletionResponse)) (now : Nat) : Prop where
  rows : ∀ row ∈ cache.cacheEntries, ∃ e, Expiring.newest log row.cacheKey = some e ∧ row.Holds e
  entries : ∀ key e, Expiring.newest log key = some e → now < e.expires →
    ∃ row ∈ cache.cacheEntries, row.cacheKey = key

namespace SqliteResponseCache.Shows

variable {cache : SqliteResponseCache} {log : List (Expiring.Entry String ChatCompletionResponse)}
  {now : Nat}

theorem empty (now : Nat) : ({} : SqliteResponseCache).Shows [] now :=
  ⟨fun _ hrow => absurd hrow List.not_mem_nil, fun _ _ he => by cases he⟩

/-- Time only makes less to show. -/
theorem mono (h : cache.Shows log now) {later : Nat} (hle : now ≤ later) :
    cache.Shows log later :=
  ⟨h.rows, fun key e he hlater => h.entries key e he (hle.trans_lt hlater)⟩

theorem get_eq_lookup {t : UInt64} (h : cache.Shows log t.toNat) (ht : t.toNat < 2 ^ 63)
    (key : String) : cache.get t key = Expiring.lookup log key t.toNat := by
  unfold get
  cases hfind : cache.cacheEntries.find? fun row =>
      row.cacheKey = key && decide (t.toInt64 < row.expiresAtUnixSeconds) with
  | none =>
      symm
      rw [Option.bind_none, Option.eq_none_iff_forall_ne_some]
      intro response hlookup
      obtain ⟨e, he, hexpires, -⟩ := Expiring.lookup_eq_some.mp hlookup
      obtain ⟨row, hrow, rfl⟩ := h.entries key e he hexpires
      obtain ⟨e', he', hholds⟩ := h.rows row hrow
      obtain rfl : e' = e := Option.some.inj (he'.symm.trans he)
      have hmiss := List.find?_eq_none.mp hfind row hrow
      simp [(hholds.expiry ht).mpr hexpires] at hmiss
  | some row =>
      have hrow := List.mem_of_find?_eq_some hfind
      have hmatch : row.cacheKey = key ∧ t.toInt64 < row.expiresAtUnixSeconds := by
        simpa using List.find?_some hfind
      obtain ⟨e, he, hholds⟩ := h.rows row hrow
      rw [hmatch.1] at he
      rw [Option.bind_some, hholds.response]
      exact (Expiring.lookup_eq_some.mpr ⟨e, he, (hholds.expiry ht).mp hmatch.2, rfl⟩).symm

theorem put (h : cache.Shows log now) {response : ChatCompletionResponse}
    (hcreated : Json.IsI64 response.created) (t ttl : UInt64) (key : String) :
    (cache.put t key response ttl).Shows (⟨key, response, cacheExpiry t ttl⟩ :: log) now := by
  have hholds : ∀ row : CacheEntryRow, row.responseJson = response.toStr →
      row.expiresAtUnixSeconds = (Word.saturatingAdd t ttl).toInt64 →
      row.Holds ⟨key, response, cacheExpiry t ttl⟩ := by
    intro row hjson hexpires
    refine ⟨?_, fun hnow => ?_⟩
    · rw [hjson]
      exact ChatCompletionResponse.fromStr_toStr hcreated
    · rw [hexpires]
      exact lt_expiresAt_iff hnow t ttl
  constructor
  · intro row hrow
    rw [Expiring.newest_cons]
    rcases Table.mem_upsert hrow with ⟨old, hold, hkey, rfl⟩ | ⟨hold, hkey⟩ | rfl
    · exact ⟨_, if_pos (of_decide_eq_true hkey).symm, hholds _ rfl rfl⟩
    · rw [if_neg fun heq => of_decide_eq_false hkey heq.symm]
      exact h.rows row hold
    · exact ⟨_, if_pos rfl, hholds _ rfl rfl⟩
  · intro key' e he hexpires
    rw [Expiring.newest_cons] at he
    by_cases hkey : key = key'
    · subst hkey
      have hnew : ∃ row ∈ (cache.put t key response ttl).cacheEntries,
          decide (row.cacheKey = key) = true := by
        unfold SqliteResponseCache.put
        exact Table.exists_mem_upsert (by simp) (by simp) cache.cacheEntries
      simpa using hnew
    · rw [if_neg hkey] at he
      obtain ⟨row, hrow, rfl⟩ := h.entries key' e he hexpires
      exact ⟨row, Table.mem_upsert_of_neg hrow (decide_eq_false (Ne.symm hkey)), rfl⟩

theorem pruneExpired {t : UInt64} (h : cache.Shows log t.toNat) (ht : t.toNat < 2 ^ 63) :
    (cache.pruneExpired t).Shows log t.toNat := by
  constructor
  · exact fun row hrow => h.rows row (Table.mem_delete.mp hrow).1
  · intro key e he hexpires
    obtain ⟨row, hrow, rfl⟩ := h.entries key e he hexpires
    obtain ⟨e', he', hholds⟩ := h.rows row hrow
    obtain rfl : e' = e := Option.some.inj (he'.symm.trans he)
    refine ⟨row, Table.mem_delete.mpr ⟨hrow, decide_eq_false ?_⟩, rfl⟩
    exact Int64.not_le.mpr ((hholds.expiry ht).mpr hexpires)

end SqliteResponseCache.Shows

/-! ## Runs -/

/-- A call that changes the cache. -/
inductive CacheCall where
  | put (key : String) (response : ChatCompletionResponse) (ttl : UInt64)
  | pruneExpired

/-- A call with the reading of the clock it uses. -/
abbrev TimedCacheCall := UInt64 × CacheCall

def SqliteResponseCache.perform (cache : SqliteResponseCache) :
    TimedCacheCall → SqliteResponseCache
  | (now, .put key response ttl) => cache.put now key response ttl
  | (now, .pruneExpired) => cache.pruneExpired now

/-- What the call adds to the log.  Pruning adds nothing. -/
def TimedCacheCall.record (log : List (Expiring.Entry String ChatCompletionResponse)) :
    TimedCacheCall → List (Expiring.Entry String ChatCompletionResponse)
  | (now, .put key response ttl) => ⟨key, response, cacheExpiry now ttl⟩ :: log
  | (_, .pruneExpired) => log

/-- `created` is an `i64`. -/
def CacheCall.WellTyped : CacheCall → Prop
  | .put _ response _ => Json.IsI64 response.created
  | .pruneExpired => True

theorem SqliteResponseCache.Shows.perform {cache : SqliteResponseCache}
    {log : List (Expiring.Entry String ChatCompletionResponse)} {call : TimedCacheCall}
    (h : cache.Shows log call.1.toNat) (htime : call.1.toNat < 2 ^ 63)
    (htyped : call.2.WellTyped) : (cache.perform call).Shows (call.record log) call.1.toNat := by
  obtain ⟨now, call⟩ := call
  cases call with
  | put key response ttl => exact h.put htyped now ttl key
  | pruneExpired => exact h.pruneExpired htime

theorem SqliteResponseCache.Shows.run {now : UInt64} (hnow : now.toNat < 2 ^ 63)
    {calls : List TimedCacheCall} (hclock : calls.Pairwise fun a b => a.1 ≤ b.1)
    (hpast : ∀ call ∈ calls, call.1 ≤ now) (htyped : ∀ call ∈ calls, call.2.WellTyped)
    {cache : SqliteResponseCache} {log : List (Expiring.Entry String ChatCompletionResponse)}
    {start : Nat} (hstart : ∀ call ∈ calls, start ≤ call.1.toNat) (hle : start ≤ now.toNat)
    (h : cache.Shows log start) :
    (calls.foldl SqliteResponseCache.perform cache).Shows
      (calls.foldl TimedCacheCall.record log) now.toNat := by
  -- The induction carries the time of the last call, from which on the cache shows the log.
  induction calls generalizing cache log start with
  | nil => exact h.mono hle
  | cons call calls ih =>
      obtain ⟨hlater, hclock⟩ := List.pairwise_cons.mp hclock
      obtain ⟨hcall, hpast⟩ := List.forall_mem_cons.mp hpast
      obtain ⟨hcallTyped, htyped⟩ := List.forall_mem_cons.mp htyped
      have hcallLe : call.1.toNat ≤ now.toNat := UInt64.le_iff_toNat_le.mp hcall
      have hshown := h.mono (hstart call List.mem_cons_self)
      exact ih hclock hpast htyped (fun later hmem => UInt64.le_iff_toNat_le.mp (hlater later hmem))
        hcallLe (hshown.perform (hcallLe.trans_lt hnow) hcallTyped)

/-- Whatever was stored and pruned before, as long as the clock has not gone back, a key has the
answer that was stored for it last, as it was stored, until that one expires. -/
theorem sqliteCache_get_eq_lookup {calls : List TimedCacheCall}
    (hclock : calls.Pairwise fun a b => a.1 ≤ b.1) (htyped : ∀ call ∈ calls, call.2.WellTyped)
    {now : UInt64} (hpast : ∀ call ∈ calls, call.1 ≤ now) (hnow : now.toNat < 2 ^ 63)
    (key : String) :
    (calls.foldl SqliteResponseCache.perform {}).get now key =
      Expiring.lookup (calls.foldl TimedCacheCall.record []) key now.toNat :=
  (SqliteResponseCache.Shows.run hnow hclock hpast htyped (fun _ _ => Nat.zero_le _)
    (Nat.zero_le _) (.empty 0)).get_eq_lookup hnow key

/-- An answer that is replaced by one with a shorter life, and the cache pruned in between. -/
theorem sqliteCache_get_eq_lookup_replaced :
    let answer : ChatCompletionResponse :=
      { id := "1", object := "chat.completion", created := -1, model := "m", provider := "p"
        choices := [], usage := ⟨1, 2, 3⟩ }
    let calls : List TimedCacheCall :=
      [(10, .put "k" answer 100), (20, .pruneExpired), (30, .put "k" { answer with id := "2" } 5)]
    (calls.foldl SqliteResponseCache.perform {}).get 34 "k" = some { answer with id := "2" } ∧
      (calls.foldl SqliteResponseCache.perform {}).get 35 "k" = none := by
  intro answer calls
  have hclock : calls.Pairwise fun a b => a.1 ≤ b.1 := by decide
  have hcreated : Json.IsI64 answer.created := by decide
  have htyped : ∀ call ∈ calls, call.2.WellTyped := by
    simp only [calls, List.forall_mem_cons]
    exact ⟨hcreated, trivial, hcreated, fun _ h => absurd h List.not_mem_nil⟩
  constructor
  · rw [sqliteCache_get_eq_lookup hclock htyped (by decide) (by decide)]
    rfl
  · rw [sqliteCache_get_eq_lookup hclock htyped (by decide) (by decide)]
    rfl

end RustyGate
