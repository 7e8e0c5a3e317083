/-
API keys and their store (`src/auth/keys.rs`).

The store keeps a row for every key that was ever created, with a hash in place of the key
and the time of its revocation.  `id` and `key_prefix` are unique columns, and the limits
are in signed 64-bit columns.  What `create_key` takes from its surroundings, the random
identifiers, the salt, the clock and whether the row can be written, is a `Draw`.

Argon2 is a parameter.  `hash` is `none` where hashing fails, and `verify` where the hash
cannot be parsed.
-/
import Mathlib.Data.Rat.Defs
import RustyGate.Arith.Word
import RustyGate.Collections.Table
import RustyGate.Uuid

namespace RustyGate

open Word

inductive KeyRole where
  | admin
  | inference
  | observability
  deriving DecidableEq, Repr

inductive AuthError where
  | invalidRole (role : String)
  | invalidKeyFormat
  | hash
  | storage
  deriving DecidableEq, Repr

namespace KeyRole

def asStr : KeyRole → String
  | admin => "admin"
  | inference => "inference"
  | observability => "observability"

def fromStr (value : String) : Except AuthError KeyRole :=
  if value = "admin" then .ok admin
  else if value = "inference" then .ok inference
  else if value = "observability" then .ok observability
  else .error (.invalidRole value)

def allowsInference : KeyRole → Bool
  | admin | inference => true
  | observability => false

def allowsObservability : KeyRole → Bool
  | admin | observability => true
  | inference => false

@[simp]
theorem fromStr_asStr (role : KeyRole) : fromStr role.asStr = .ok role := by
  cases role <;> rfl

end KeyRole

/-- What a `REAL` column holds. -/
inductive Amount where
  | finite (value : ℚ)
  | infinite (negative : Bool)
  deriving DecidableEq, Repr

inductive F64 where
  | number (value : Amount)
  | nan
  deriving DecidableEq, Repr

namespace F64

/-- SQLite has no NaN, and keeps `NULL` in its place. -/
def column : F64 → Option Amount
  | number value => some value
  | nan => none

/-- `total >= quota`. -/
def reachedBy (total : ℚ) : F64 → Bool
  | number (.finite value) => value ≤ total
  | number (.infinite negative) => negative
  | nan => false

end F64

structure KeyLimits where
  requestsPerMinute : Option UInt32 := none
  dailyTokenQuota : Option UInt64 := none
  dailyCostQuotaUsd : Option F64 := none
  deriving DecidableEq, Repr

/-- The limits as the store keeps them: a cost quota that is NaN, which no cost reaches, is
kept as no quota. -/
def KeyLimits.stored (limits : KeyLimits) : KeyLimits :=
  { limits with dailyCostQuotaUsd := (limits.dailyCostQuotaUsd.bind F64.column).map .number }

/-- Nothing but a NaN is lost in the store. -/
theorem KeyLimits.stored_eq_self_iff {limits : KeyLimits} :
    limits.stored = limits ↔ limits.dailyCostQuotaUsd ≠ some .nan := by
  obtain ⟨requests, tokens, _ | _ | _⟩ := limits <;> simp [stored, F64.column]

/-- The defaults are those of the key that `StaticKeyStore` knows. -/
structure AuthenticatedKey where
  id : String
  keyPrefix : String := "env"
  label : String := "environment default key"
  role : KeyRole := .admin
  limits : KeyLimits := {}
  cacheEnabled : Bool := true
  deriving DecidableEq, Repr

structure GeneratedApiKey where
  id : String
  keyPrefix : String
  rawKey : String
  deriving DecidableEq, Repr

/-! ## The shape of a key -/

def parseKeyPrefix (rawKey : String) : Except AuthError String :=
  match Text.splitn '_' 3 rawKey.toList with
  | [scheme, part, secret] =>
      if scheme = "rgk".toList ∧ part ≠ [] ∧ secret ≠ [] then .ok (String.ofList part)
      else .error .invalidKeyFormat
  | _ => .error .invalidKeyFormat

theorem parseKeyPrefix_error {rawKey : String} {e : AuthError}
    (h : parseKeyPrefix rawKey = .error e) : e = .invalidKeyFormat := by
  unfold parseKeyPrefix at h
  split at h
  · split at h
    · cases h
    · cases h
      rfl
  · cases h
    rfl

/-- `rgk_{prefix}_{secret}`. -/
def rawKeyOf (part secret : List Char) : String :=
  String.ofList ("rgk".toList ++ '_' :: (part ++ '_' :: secret))

theorem parseKeyPrefix_rawKeyOf {part secret : List Char} (hpart : part ≠ [])
    (hunder : '_' ∉ part) (hsecret : secret ≠ []) :
    parseKeyPrefix (rawKeyOf part secret) = .ok (String.ofList part) := by
  have hscheme : '_' ∉ "rgk".toList := by decide
  unfold parseKeyPrefix rawKeyOf
  rw [String.toList_ofList, Text.splitn_append hscheme, Text.splitn_append hunder, Text.splitn]
  exact if_pos ⟨rfl, hpart, hsecret⟩

/-! ## The store -/

structure Argon2 where
  hash : (salt rawKey : String) → Option String
  verify : (rawKey hash : String) → Option Bool

/-- A row of `api_keys`. -/
structure ApiKeyRow where
  id : String
  keyPrefix : String
  keyHash : String
  label : String
  role : String
  requestsPerMinute : Option Int64
  dailyTokenQuota : Option Int64
  dailyCostQuotaUsd : Option Amount
  cacheEnabled : Int64
  createdAtUnixSeconds : Int64
  revokedAtUnixSeconds : Option Int64
  deriving DecidableEq, Repr

def rowToKey (row : ApiKeyRow) : Except AuthError AuthenticatedKey := do
  let role ← KeyRole.fromStr row.role
  return { id := row.id
           keyPrefix := row.keyPrefix
           label := row.label
           role := role
           limits := { requestsPerMinute := row.requestsPerMinute.map i64AsU32
                       dailyTokenQuota := row.dailyTokenQuota.map Int64.toUInt64
                       dailyCostQuotaUsd := row.dailyCostQuotaUsd.map .number }
           cacheEnabled := row.cacheEnabled != 0 }

theorem rowToKey_eq_ok {row : ApiKeyRow} {key : AuthenticatedKey} (h : rowToKey row = .ok key) :
    key.id = row.id ∧ key.limits = ⟨row.requestsPerMinute.map i64AsU32,
      row.dailyTokenQuota.map Int64.toUInt64, row.dailyCostQuotaUsd.map .number⟩ := by
  unfold rowToKey at h
  cases hrole : KeyRole.fromStr row.role with
  | error e =>
      rw [hrole] at h
      cases h
  | ok role =>
      rw [hrole] at h
      cases h
      exact ⟨rfl, rfl⟩

/-- A row of `api_key_usage_daily`.  A sum that leaves the signed 64-bit range is kept by
SQLite as a real number, and stands here with its value. -/
structure UsageRow where
  apiKeyId : String
  dayUnix : Int64
  requestCount : Nat
  totalTokens : Nat
  totalCostUsd : ℚ
  deriving DecidableEq, Repr

structure SqliteKeyStore where
  apiKeys : List ApiKeyRow := []
  apiKeyUsageDaily : List UsageRow := []
  deriving DecidableEq, Repr

/-- What `create_key` takes from its surroundings. -/
structure Draw where
  id : Uuid
  keyPrefix : Uuid
  secretLeft : Uuid
  secretRight : Uuid
  salt : String
  unixSeconds : UInt64
  /-- Whether SQLite can write, which a lock or a full disk prevents. -/
  writable : Bool
  deriving DecidableEq, Repr

namespace Draw

variable (draw : Draw)

def idText : String := uuidText draw.id

def part : List Char := (uuidSimple draw.keyPrefix).take 8

def secret : List Char := uuidSimple draw.secretLeft ++ uuidSimple draw.secretRight

def rawKey : String := rawKeyOf draw.part draw.secret

/-- The raw key is parsed back into the prefix it was made of. -/
theorem parseKeyPrefix_rawKey :
    parseKeyPrefix draw.rawKey = .ok (String.ofList draw.part) := by
  have hlength : draw.part.length = 8 := by
    rw [part, uuidSimple, List.length_take, Text.length_hex]
    rfl
  have hsecret : draw.secret.length = 64 := by
    rw [secret, uuidSimple, uuidSimple, List.length_append, Text.length_hex, Text.length_hex]
  refine parseKeyPrefix_rawKeyOf (List.ne_nil_of_length_eq_add_one hlength) ?_
    (List.ne_nil_of_length_eq_add_one hsecret)
  intro hmem
  exact Text.not_mem_hex (by decide) 32 draw.keyPrefix.toNat (List.mem_of_mem_take hmem)

end Draw

/-- The row that `create_key` inserts. -/
def newRow (label : String) (role : KeyRole) (limits : KeyLimits) (cacheEnabled : Bool)
    (draw : Draw) (keyHash : String) : ApiKeyRow where
  id := draw.idText
  keyPrefix := String.ofList draw.part
  keyHash := keyHash
  label := label
  role := role.asStr
  requestsPerMinute := limits.requestsPerMinute.map i64OfU32
  dailyTokenQuota := limits.dailyTokenQuota.map UInt64.toInt64
  dailyCostQuotaUsd := limits.dailyCostQuotaUsd.bind F64.column
  cacheEnabled := i64OfBool cacheEnabled
  createdAtUnixSeconds := draw.unixSeconds.toInt64
  revokedAtUnixSeconds := none

/-- A row is read back as the key it was made for, with its limits as they are stored. -/
theorem rowToKey_newRow (label : String) (role : KeyRole) (limits : KeyLimits)
    (cacheEnabled : Bool) (draw : Draw) (keyHash : String) :
    rowToKey (newRow label role limits cacheEnabled draw keyHash) =
      .ok ⟨draw.idText, String.ofList draw.part, label, role, limits.stored, cacheEnabled⟩ := by
  have hrate : (limits.requestsPerMinute.map i64OfU32).map i64AsU32 = limits.requestsPerMinute := by
    rw [Option.map_map]
    exact (Option.map_congr fun value _ => i64AsU32_i64OfU32 value).trans Option.map_id'
  have hquota : (limits.dailyTokenQuota.map UInt64.toInt64).map Int64.toUInt64 =
      limits.dailyTokenQuota := by
    rw [Option.map_map]
    exact (Option.map_congr fun value _ => UInt64.toUInt64_toInt64 value).trans Option.map_id'
  simp only [rowToKey, newRow, KeyRole.fromStr_asStr, hrate, hquota, i64OfBool_ne_zero]
  rfl

namespace SqliteKeyStore

variable (argon : Argon2) (store : SqliteKeyStore)

/-- `INSERT INTO api_keys`. -/
def insertRow (draw : Draw) (row : ApiKeyRow) : Option (List ApiKeyRow) :=
  if draw.writable then Table.insert [ApiKeyRow.id, ApiKeyRow.keyPrefix] store.apiKeys row
  else none

def createKey (label : String) (role : KeyRole) (limits : KeyLimits) (cacheEnabled : Bool)
    (draw : Draw) : Except AuthError GeneratedApiKey × SqliteKeyStore :=
  match argon.hash draw.salt draw.rawKey with
  | none => (.error .hash, store)
  | some keyHash =>
      match store.insertRow draw (newRow label role limits cacheEnabled draw keyHash) with
      | none => (.error .storage, store)
      | some apiKeys =>
          (.ok ⟨draw.idText, String.ofList draw.part, draw.rawKey⟩,
            { store with apiKeys := apiKeys })

def revokeKey (id : String) (unixSeconds : UInt64) : SqliteKeyStore :=
  { store with
    apiKeys := Table.update (fun row => row.id = id)
      (fun row => { row with revokedAtUnixSeconds := some unixSeconds.toInt64 }) store.apiKeys }

/-- `SELECT ... WHERE id = ? AND revoked_at_unix_seconds IS NULL`. -/
def getKey (id : String) : Except AuthError (Option AuthenticatedKey) :=
  match store.apiKeys.find? fun row => row.id = id ∧ row.revokedAtUnixSeconds = none with
  | none => .ok none
  | some row => (rowToKey row).map some

/-- `SELECT ... WHERE key_prefix = ? AND revoked_at_unix_seconds IS NULL`. -/
def selectLive (part : String) : Option ApiKeyRow :=
  store.apiKeys.find? fun row => row.keyPrefix = part ∧ row.revokedAtUnixSeconds = none

/-- The row's key, if the raw key is the one that was hashed. -/
def verifiedKey (rawKey : String) (row : ApiKeyRow) :
    Except AuthError (Option AuthenticatedKey) :=
  match argon.verify rawKey row.keyHash with
  | none => .error .hash
  | some false => .ok none
  | some true => (rowToKey row).map some

def authenticate (rawKey : String) : Except AuthError (Option AuthenticatedKey) := do
  let part ← parseKeyPrefix rawKey
  match store.selectLive part with
  | none => return none
  | some row => verifiedKey argon rawKey row

end SqliteKeyStore

end RustyGate
