/-
Daily quotas (`check_quota` and `record_usage` of `src/auth/keys.rs`, and the quota part of
`per_key_rate_limit_middleware`).

A request asks for the quota when it starts and records its usage when it has been served.
The provider is called in between, and nothing is reserved for the request meanwhile.
`overshoot` bounds what this costs: where at most `k` requests of a key have passed the
check and not ended, a key exceeds its quota by less than `k` requests.
-/
import RustyGate.Auth.Keys
import RustyGate.Effect.Pool

namespace RustyGate

open Effect

structure QuotaRejection where
  retryAfterSeconds : UInt64
  deriving DecidableEq, Repr

def currentDayUnix (unixSeconds : UInt64) : UInt64 := unixSeconds / 86400

def secondsUntilNextDay (unixSeconds : UInt64) : UInt64 := 86400 - unixSeconds % 86400

/-- `try_get::<i64>`, which does not read a real number. -/
def UsageRow.readTotalTokens (row : UsageRow) : Option Int64 :=
  if row.totalTokens < 2 ^ 63 then some (Int64.ofNat row.totalTokens) else none

namespace SqliteKeyStore

variable (store : SqliteKeyStore)

/-- `SELECT ... WHERE api_key_id = ? AND day_unix = ?`. -/
def selectUsage (apiKeyId : String) (dayUnix : Int64) : Option UsageRow :=
  store.apiKeyUsageDaily.find? fun row => row.apiKeyId = apiKeyId ∧ row.dayUnix = dayUnix

/-- The tokens that the check takes to be used. -/
def totalTokensRead (apiKeyId : String) (dayUnix : Int64) : UInt64 :=
  (((store.selectUsage apiKeyId dayUnix).bind UsageRow.readTotalTokens).getD 0).toUInt64

def totalCostRead (apiKeyId : String) (dayUnix : Int64) : ℚ :=
  ((store.selectUsage apiKeyId dayUnix).map UsageRow.totalCostUsd).getD 0

def checkQuota (key : AuthenticatedKey) (unixSeconds : UInt64) : Except QuotaRejection Unit :=
  if key.limits.dailyTokenQuota.isNone ∧ key.limits.dailyCostQuotaUsd.isNone then .ok ()
  else if
      (key.limits.dailyTokenQuota.any fun quota =>
        quota ≤ store.totalTokensRead key.id (currentDayUnix unixSeconds).toInt64) ∨
      (key.limits.dailyCostQuotaUsd.any
        (F64.reachedBy (store.totalCostRead key.id (currentDayUnix unixSeconds).toInt64))) then
    .error ⟨secondsUntilNextDay unixSeconds⟩
  else .ok ()

/-- `i64::try_from(total_tokens).unwrap_or(i64::MAX)`. -/
def boundTokens (totalTokens : UInt64) : Nat := min totalTokens.toNat (2 ^ 63 - 1)

/-- The usage row refers to the key's row, so that usage of an unknown key is refused. -/
def recordUsage (apiKeyId : String) (totalTokens : UInt64) (totalCostUsd : ℚ)
    (unixSeconds : UInt64) : Except AuthError Unit × SqliteKeyStore :=
  if apiKeyId ∈ store.apiKeys.map ApiKeyRow.id then
    (.ok (), { store with
      apiKeyUsageDaily := Table.upsert
        (fun row => row.apiKeyId = apiKeyId ∧ row.dayUnix = (currentDayUnix unixSeconds).toInt64)
        ⟨apiKeyId, (currentDayUnix unixSeconds).toInt64, 1, boundTokens totalTokens, totalCostUsd⟩
        (fun row => { row with
          requestCount := row.requestCount + 1
          totalTokens := row.totalTokens + boundTokens totalTokens
          totalCostUsd := row.totalCostUsd + totalCostUsd })
        store.apiKeyUsageDaily })
  else (.error .storage, store)

/-- The tokens recorded for a key on a day. -/
def recordedTokens (apiKeyId : String) (dayUnix : Int64) : Nat :=
  (store.selectUsage apiKeyId dayUnix).elim 0 UsageRow.totalTokens

variable {store}

/-- As long as the sum has not left the signed range, the check reads what was recorded. -/
theorem toNat_totalTokensRead {apiKeyId : String} {dayUnix : Int64}
    (h : store.recordedTokens apiKeyId dayUnix < 2 ^ 63) :
    (store.totalTokensRead apiKeyId dayUnix).toNat = store.recordedTokens apiKeyId dayUnix := by
  unfold totalTokensRead
  unfold recordedTokens at h ⊢
  cases hrow : store.selectUsage apiKeyId dayUnix with
  | none => rfl
  | some row =>
      rw [hrow] at h
      have hlt : row.totalTokens < 2 ^ 63 := h
      have hread : row.readTotalTokens = some (Int64.ofNat row.totalTokens) := if_pos hlt
      show ((row.readTotalTokens.getD 0).toUInt64).toNat = row.totalTokens
      rw [hread]
      show (UInt64.ofNat row.totalTokens).toNat = row.totalTokens
      rw [UInt64.toNat_ofNat']
      omega

/-- A key passes the check only below its quota. -/
theorem lt_of_checkQuota {key : AuthenticatedKey} {quota unixSeconds : UInt64}
    (hquota : key.limits.dailyTokenQuota = some quota)
    (hrange : store.recordedTokens key.id (currentDayUnix unixSeconds).toInt64 < 2 ^ 63)
    (h : store.checkQuota key unixSeconds = .ok ()) :
    store.recordedTokens key.id (currentDayUnix unixSeconds).toInt64 < quota.toNat := by
  rw [← toNat_totalTokensRead hrange]
  unfold checkQuota at h
  rw [hquota, if_neg (by simp)] at h
  by_cases hover : quota ≤ store.totalTokensRead key.id (currentDayUnix unixSeconds).toInt64
  · rw [if_pos (Or.inl (by simpa using hover))] at h
    cases h
  · exact UInt64.lt_iff_toNat_lt.mp (UInt64.not_le.mp hover)

/-- A request adds at most its own tokens. -/
theorem recordedTokens_recordUsage_le (store : SqliteKeyStore) (apiKeyId : String)
    (totalTokens : UInt64) (totalCostUsd : ℚ) (unixSeconds : UInt64) :
    (store.recordUsage apiKeyId totalTokens totalCostUsd unixSeconds).2.recordedTokens apiKeyId
        (currentDayUnix unixSeconds).toInt64 ≤
      store.recordedTokens apiKeyId (currentDayUnix unixSeconds).toInt64 + totalTokens.toNat := by
  have hbound : boundTokens totalTokens ≤ totalTokens.toNat := Nat.min_le_left _ _
  unfold recordUsage
  by_cases hknown : apiKeyId ∈ store.apiKeys.map ApiKeyRow.id
  · rw [if_pos hknown]
    unfold recordedTokens selectUsage
    dsimp only
    rw [Table.find?_upsert (by simp) (by simp)]
    cases store.apiKeyUsageDaily.find? _ with
    | none =>
        show boundTokens totalTokens ≤ 0 + totalTokens.toNat
        omega
    | some row =>
        show row.totalTokens + boundTokens totalTokens ≤ row.totalTokens + totalTokens.toNat
        omega
  · rw [if_neg hknown]
    exact Nat.le_add_right _ _

end SqliteKeyStore

/-! ## The requests of a key on one day -/

inductive QuotaOp where
  | checkQuota
  | recordUsage (totalTokens : UInt32) (totalCostUsd : ℚ)

def QuotaAns : QuotaOp → Type
  | .checkQuota => Except QuotaRejection Unit
  | .recordUsage _ _ => Unit

/-- What a request does with its key's quota.  There is no usage if it is not served. -/
def quotaRequest (usage : Option (UInt32 × ℚ)) : Program QuotaOp QuotaAns Unit :=
  .op .checkQuota fun
    | .error _ => .ret ()
    | .ok _ =>
        match usage with
        | none => .ret ()
        | some (totalTokens, totalCostUsd) => .op (.recordUsage totalTokens totalCostUsd) .ret

inductive QuotaPhase where
  | arrived
  | admitted
  | ended
  deriving DecidableEq, Repr

namespace QuotaPhase

def isAdmitted : QuotaPhase → Bool
  | admitted => true
  | _ => false

/-- An admitted request records its usage once, and at most `largest` tokens. -/
def watch (largest : UInt32) (phase : QuotaPhase) : (o : QuotaOp) → QuotaAns o → Option QuotaPhase
  | .checkQuota, .ok _ => if phase = arrived then some admitted else none
  | .checkQuota, .error _ => if phase = arrived then some ended else none
  | .recordUsage totalTokens _, _ =>
      if phase = admitted ∧ totalTokens ≤ largest then some ended else none

variable {largest : UInt32} {phase phase' : QuotaPhase}

theorem of_watch_error {rejection : QuotaRejection}
    (h : watch largest phase .checkQuota (.error rejection) = some phase') :
    phase = .arrived ∧ phase' = .ended := by
  obtain ⟨harrived, hended⟩ := Option.ite_none_right_eq_some.mp h
  exact ⟨harrived, (Option.some.inj hended).symm⟩

theorem of_watch_ok (h : watch largest phase .checkQuota (.ok ()) = some phase') :
    phase = .arrived ∧ phase' = .admitted := by
  obtain ⟨harrived, hadmitted⟩ := Option.ite_none_right_eq_some.mp h
  exact ⟨harrived, (Option.some.inj hadmitted).symm⟩

theorem of_watch_recordUsage {totalTokens : UInt32} {totalCostUsd : ℚ}
    (h : watch largest phase (.recordUsage totalTokens totalCostUsd) () = some phase') :
    phase = .admitted ∧ totalTokens ≤ largest ∧ phase' = .ended := by
  obtain ⟨⟨hadmitted, htotal⟩, hended⟩ := Option.ite_none_right_eq_some.mp h
  exact ⟨hadmitted, htotal, (Option.some.inj hended).symm⟩

end QuotaPhase

/-- The requests of a key on one day, none of which uses more than `largest` tokens.  What
happens to other keys and on other days leaves the key's usage alone. -/
def quotaDay (key : AuthenticatedKey) (day : UInt64) (largest : UInt32) :
    Setting QuotaAns QuotaPhase SqliteKeyStore where
  exec _ store
    | .checkQuota, answer, store' => ∃ unixSeconds, currentDayUnix unixSeconds = day ∧
        store.checkQuota key unixSeconds = answer ∧ store' = store
    | .recordUsage totalTokens totalCostUsd, _, store' =>
        ∃ unixSeconds, currentDayUnix unixSeconds = day ∧
          store' = (store.recordUsage key.id totalTokens.toUInt64 totalCostUsd unixSeconds).2
  awaits _ := true
  leave _ store := store
  cancel _ store := store
  ambient store store' :=
    store'.selectUsage key.id day.toInt64 = store.selectUsage key.id day.toInt64
  watch := QuotaPhase.watch largest
  start := .arrived
  done _ := True
  programs p := ∃ usage, (∀ used ∈ usage, used.1 ≤ largest) ∧ p = quotaRequest usage

abbrev QuotaPool := Pool QuotaAns QuotaPhase SqliteKeyStore

/-- The requests that have passed the check and not ended. -/
def QuotaPool.admitted (x : QuotaPool) : Nat := x.count QuotaPhase.isAdmitted

/-- The check is made only when fewer than `k` requests have passed it and not ended. -/
def FewerThan (k : Nat) (x : QuotaPool) (l : Label QuotaAns) : Prop :=
  ∀ i answer, l = .act i ⟨.checkQuota, answer⟩ → x.admitted < k

theorem quotaRequest_follows {largest : UInt32} {usage : Option (UInt32 × ℚ)}
    (h : ∀ used ∈ usage, used.1 ≤ largest) :
    (quotaRequest usage).Follows (QuotaPhase.watch largest) (fun _ _ => True) .arrived := by
  intro answer
  cases answer with
  | error rejection => exact ⟨.ended, rfl, trivial⟩
  | ok _ =>
      refine ⟨.admitted, rfl, ?_⟩
      cases usage with
      | none => trivial
      | some used =>
          intro _
          exact ⟨.ended, if_pos ⟨rfl, h used rfl⟩, trivial⟩

section Overshoot

variable {key : AuthenticatedKey} {quota day : UInt64} {largest : UInt32} {k : Nat}

/-- Every admitted request may still add the largest usage. -/
def Within (key : AuthenticatedKey) (quota day : UInt64) (largest : UInt32) (k : Nat)
    (x : QuotaPool) : Prop :=
  x.world.recordedTokens key.id day.toInt64 + x.admitted * largest.toNat <
    quota.toNat + k * largest.toNat

variable {x y : QuotaPool}

theorem Within.of_le (h : Within key quota day largest k x)
    (htokens : y.world.recordedTokens key.id day.toInt64 ≤
      x.world.recordedTokens key.id day.toInt64)
    (hadmitted : y.admitted ≤ x.admitted) : Within key quota day largest k y := by
  have hopen : y.admitted * largest.toNat ≤ x.admitted * largest.toNat :=
    Nat.mul_le_mul_right _ hadmitted
  unfold Within at h ⊢
  omega

/-- A request passes the check: what was recorded is below the quota, and there is room for
one more request. -/
theorem Within.admit (h : Within key quota day largest k x)
    (hquota : key.limits.dailyTokenQuota = some quota)
    (hrange : quota.toNat + k * largest.toNat ≤ 2 ^ 63) {now : UInt64}
    (hday : currentDayUnix now = day) (hcheck : x.world.checkQuota key now = .ok ())
    (hroom : x.admitted < k) (hworld : y.world = x.world)
    (hadmitted : y.admitted = x.admitted + 1) : Within key quota day largest k y := by
  subst hday
  unfold Within at h ⊢
  have hbelow := SqliteKeyStore.lt_of_checkQuota hquota (by omega) hcheck
  have hopen : (x.admitted + 1) * largest.toNat ≤ k * largest.toNat :=
    Nat.mul_le_mul_right _ hroom
  rw [hworld, hadmitted]
  omega

/-- An admitted request records its usage and is admitted no longer. -/
theorem Within.record (h : Within key quota day largest k x) {totalTokens : UInt32}
    {totalCostUsd : ℚ} {now : UInt64} (hday : currentDayUnix now = day)
    (htotal : totalTokens ≤ largest)
    (hworld : y.world = (x.world.recordUsage key.id totalTokens.toUInt64 totalCostUsd now).2)
    (hadmitted : y.admitted + 1 = x.admitted) : Within key quota day largest k y := by
  subst hday
  have hadded := SqliteKeyStore.recordedTokens_recordUsage_le x.world key.id
    totalTokens.toUInt64 totalCostUsd now
  rw [← hworld, UInt32.toNat_toUInt64] at hadded
  have hle : totalTokens.toNat ≤ largest.toNat := UInt32.le_iff_toNat_le.mp htotal
  unfold Within at h ⊢
  rw [← hadmitted, Nat.succ_mul] at h
  omega

theorem Within.step (hquota : key.limits.dailyTokenQuota = some quota)
    (hrange : quota.toNat + k * largest.toNat ≤ 2 ^ 63) {l : Label QuotaAns}
    (hphased : x.Phased (quotaDay key day largest)) (h : Within key quota day largest k x)
    (hs : Step (quotaDay key day largest) x l y) (hc : FewerThan k x l) :
    Within key quota day largest k y := by
  cases hs with
  | @spawn ts store p hp =>
      exact h.of_le (Nat.le_refl _) (Pool.count_spawn ts store p _ _).le
  | @act ts store store' i o next phase answer ht hexec =>
      obtain ⟨phase', hwatch, -⟩ := hphased i _ phase ht answer
      have hcount := Pool.count_set ht ⟨some (next answer), phase'⟩ store store'
        QuotaPhase.isAdmitted
      rw [hwatch, Option.getD_some]
      change QuotaPhase.watch largest phase o answer = some phase' at hwatch
      cases o with
      | checkQuota =>
          obtain ⟨now, hday, hcheck, rfl⟩ := hexec
          cases answer with
          | error rejection =>
              obtain ⟨rfl, rfl⟩ := QuotaPhase.of_watch_error hwatch
              exact h.of_le (Nat.le_refl _) hcount.le
          | ok _ =>
              obtain ⟨rfl, rfl⟩ := QuotaPhase.of_watch_ok hwatch
              exact h.admit hquota hrange hday hcheck (hc i _ rfl) rfl hcount
      | recordUsage totalTokens totalCostUsd =>
          obtain ⟨now, hday, rfl⟩ := hexec
          obtain ⟨rfl, htotal, rfl⟩ := QuotaPhase.of_watch_recordUsage hwatch
          exact h.record hday htotal rfl hcount
  | @leave ts store i phase ht =>
      have hcount := Pool.count_set ht ⟨none, phase⟩ store store QuotaPhase.isAdmitted
      exact h.of_le (Nat.le_refl _) (Nat.le_of_add_right_le hcount.le)
  | @cancel ts store i o next phase ht ho =>
      have hcount := Pool.count_set ht ⟨none, phase⟩ store store QuotaPhase.isAdmitted
      exact h.of_le (Nat.le_refl _) (Nat.le_of_add_right_le hcount.le)
  | @ambient ts store store' hsame =>
      refine h.of_le (Nat.le_of_eq ?_) (Nat.le_refl _)
      show (store'.selectUsage key.id day.toInt64).elim 0 _ = _
      rw [hsame]
      rfl

/-- Where at most `k` requests are admitted at a time, the tokens recorded stay below the
quota and `k` times the largest usage. -/
theorem overshoot (hquota : key.limits.dailyTokenQuota = some quota) (hpos : 0 < quota)
    (hrange : quota.toNat + k * largest.toNat ≤ 2 ^ 63) {store : SqliteKeyStore}
    (hstart : store.recordedTokens key.id day.toInt64 = 0)
    (h : Reaches (quotaDay key day largest) (FewerThan k) ⟨[], store⟩ y) :
    y.world.recordedTokens key.id day.toInt64 < quota.toNat + k * largest.toNat := by
  have hquotapos : 0 < quota.toNat := UInt64.lt_iff_toNat_lt.mp hpos
  have hinvariant : y.Phased (quotaDay key day largest) ∧ Within key quota day largest k y := by
    refine h.invariant
      (I := fun x => x.Phased (quotaDay key day largest) ∧ Within key quota day largest k x)
      (fun x l y hx hs hc => ⟨hs.phased ?_ hx.1, Within.step hquota hrange hx.1 hx.2 hs hc⟩)
      ⟨?_, ?_⟩
    · rintro p ⟨usage, husage, rfl⟩
      exact quotaRequest_follows husage
    · intro i p phase hi
      cases hi
    · show store.recordedTokens key.id day.toInt64 + 0 * largest.toNat < _
      omega
  exact Nat.lt_of_le_of_lt (Nat.le_add_right _ _) hinvariant.2

end Overshoot

/-- The tokens recorded for the key and a day never reach the quota and the largest usage
of a single request, in any run whose steps meet the condition. -/
def OvershootsByOneAtMost (key : AuthenticatedKey) (quota : UInt64)
    (condition : QuotaPool → Label QuotaAns → Prop) : Prop :=
  ∀ (day : UInt64) (largest : UInt32) (store : SqliteKeyStore) (z : QuotaPool),
    store.recordedTokens key.id day.toInt64 = 0 →
    Reaches (quotaDay key day largest) condition ⟨[], store⟩ z →
    z.world.recordedTokens key.id day.toInt64 < quota.toNat + largest.toNat

/-- A quota is exceeded by less than one request if the check is never made while another
request of the key has passed it and not ended. -/
theorem overshoots_by_one_at_most {key : AuthenticatedKey} {quota : UInt64}
    (hquota : key.limits.dailyTokenQuota = some quota) (hpos : 0 < quota)
    (hrange : quota.toNat + 2 ^ 32 ≤ 2 ^ 63) :
    OvershootsByOneAtMost key quota (FewerThan 1) := by
  intro day largest store z hstart h
  have hlargest : largest.toNat < 2 ^ 32 := largest.toNat_lt
  have hbound := overshoot hquota hpos (by omega) hstart h
  rwa [Nat.one_mul] at hbound

def tinyQuotaKey : AuthenticatedKey := { id := "key", limits := { dailyTokenQuota := some 1 } }

/-- A store that knows the key and has no usage of it yet. -/
def tinyQuotaStore : SqliteKeyStore where
  apiKeys := [⟨"key", "00000001", "", "tiny quota", "admin", none, some 1, none, 1, 0, none⟩]

/-- One request of ten tokens, which exceeds a quota of one token by nine. -/
theorem overshoots_by_one_at_most_tinyQuota :
    ∃ z : QuotaPool,
      Reaches (quotaDay tinyQuotaKey 0 10) (FewerThan 1) ⟨[], tinyQuotaStore⟩ z ∧
      z.world.recordedTokens "key" 0 = 10 ∧ z.world.recordedTokens "key" 0 < 1 + 10 := by
  have harrived := (Reaches.refl (E := quotaDay tinyQuotaKey 0 10) (C := FewerThan 1)
    (x := ⟨[], tinyQuotaStore⟩)).step (.spawn ⟨some (10, 0), by decide, rfl⟩) (by
      intro i answer h
      cases h)
  have hadmitted := harrived.step (.act (i := 0) (a := .ok ()) rfl ⟨0, rfl, by decide +kernel, rfl⟩)
    fun _ _ _ => Nat.one_pos
  have hserved := hadmitted.step (.act (i := 0) (a := ()) rfl ⟨0, rfl, rfl⟩) (by
      intro i answer h
      cases h)
  have hholds : OvershootsByOneAtMost tinyQuotaKey 1 (FewerThan 1) :=
    overshoots_by_one_at_most rfl (by decide) (by decide)
  exact ⟨_, hserved, by decide +kernel, hholds 0 10 tinyQuotaStore _ rfl hserved⟩

/-- Two requests of ten tokens that both ask before either has recorded its usage exceed a
quota of one token by nineteen. -/
theorem two_requests_overshoot :
    ¬ OvershootsByOneAtMost tinyQuotaKey 1 fun _ _ => True := by
  intro h
  have hone := (Reaches.refl (E := quotaDay tinyQuotaKey 0 10) (C := fun _ _ => True)
    (x := ⟨[], tinyQuotaStore⟩)).step (.spawn ⟨some (10, 0), by decide, rfl⟩) trivial
  have htwo := hone.step (.spawn ⟨some (10, 0), by decide, rfl⟩) trivial
  have hchecked := htwo.step
    (.act (i := 0) (a := .ok ()) rfl ⟨0, rfl, by decide +kernel, rfl⟩) trivial
  have hboth := hchecked.step
    (.act (i := 1) (a := .ok ()) rfl ⟨0, rfl, by decide +kernel, rfl⟩) trivial
  have hrecorded := hboth.step (.act (i := 0) (a := ()) rfl ⟨0, rfl, rfl⟩) trivial
  have hserved := hrecorded.step (.act (i := 1) (a := ()) rfl ⟨0, rfl, rfl⟩) trivial
  have hbound := h 0 10 tinyQuotaStore _ rfl hserved
  revert hbound
  decide +kernel

end RustyGate
