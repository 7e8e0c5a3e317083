/-
Rotating an API key (`KeysCommand::Rotate` in `src/bin/rustygate_admin.rs`).

The command reads the key, revokes it, parses the role that was asked for and creates the
replacement, each in a statement of its own.  A key that cannot be read leaves the store as
it is.  What fails behind the revocation leaves it without the old key and without a new one,
and that is an unknown role, a hash that fails, an identifier that is taken and a row that
cannot be written.
-/
import RustyGate.Auth.Keys

namespace RustyGate

inductive AdminError where
  | auth (error : AuthError)
  | message (text : String)
  deriving DecidableEq, Repr

namespace SqliteKeyStore

variable (argon : Argon2) (store : SqliteKeyStore)

/-- The role of the replacement: the one that was asked for, or else that of the old key. -/
def replacementRole (role : Option String) (existing : AuthenticatedKey) :
    Except AuthError KeyRole :=
  match role with
  | none => .ok existing.role
  | some role => KeyRole.fromStr role

/-- `rotate id --label label [--role role]`. -/
def rotate (id label : String) (role : Option String) (unixSeconds : UInt64) (draw : Draw) :
    Except AdminError GeneratedApiKey × SqliteKeyStore :=
  match store.getKey id with
  | .error e => (.error (.auth e), store)
  | .ok none => (.error (.message ("key `" ++ id ++ "` was not found or is revoked")), store)
  | .ok (some existing) =>
      let store := store.revokeKey id unixSeconds
      match replacementRole role existing with
      | .error e => (.error (.auth e), store)
      | .ok role =>
          match store.createKey argon label role existing.limits existing.cacheEnabled draw with
          | (.error e, store) => (.error (.auth e), store)
          | (.ok generated, store) => (.ok generated, store)

/-- The rows of the keys that are valid. -/
def validRows : List ApiKeyRow :=
  store.apiKeys.filter fun row => row.revokedAtUnixSeconds = none

/-- A key was replaced by one with the same limits and the same use of the cache. -/
def Replaced (id label : String) (role : Option String) (generated : GeneratedApiKey)
    (store' : SqliteKeyStore) : Prop :=
  ∃ existing newRole row, store.getKey id = .ok (some existing) ∧
    replacementRole role existing = .ok newRole ∧
    rowToKey row = .ok ⟨generated.id, generated.keyPrefix, label, newRole, existing.limits,
      existing.cacheEnabled⟩ ∧
    store'.validRows = (store.validRows.filter fun row => row.id ≠ id) ++ [row]

/-- Either the key was replaced, or there was an error and the valid keys are the same. -/
def AllOrNothing (id label : String) (role : Option String)
    (outcome : Except AdminError GeneratedApiKey × SqliteKeyStore) : Prop :=
  match outcome with
  | (.ok generated, store') => store.Replaced id label role generated store'
  | (.error _, store') => store'.validRows = store.validRows

variable {argon store}

theorem mem_validRows {row : ApiKeyRow} :
    row ∈ store.validRows ↔ row ∈ store.apiKeys ∧ row.revokedAtUnixSeconds = none := by
  rw [validRows, List.mem_filter, decide_eq_true_eq]

theorem exists_valid_of_getKey {id : String} {existing : AuthenticatedKey}
    (h : store.getKey id = .ok (some existing)) :
    ∃ row ∈ store.validRows, row.id = id ∧ rowToKey row = .ok existing := by
  unfold getKey at h
  split at h
  · cases h
  · next row hfind =>
      have hrow : row.id = id ∧ row.revokedAtUnixSeconds = none := by
        simpa using List.find?_some hfind
      refine ⟨row, mem_validRows.mpr ⟨List.mem_of_find?_eq_some hfind, hrow.2⟩, hrow.1, ?_⟩
      cases hkey : rowToKey row with
      | error e =>
          rw [hkey] at h
          cases h
      | ok key =>
          rw [hkey] at h
          cases h
          rfl

/-- Limits that were read are stored as they are. -/
theorem stored_of_getKey {id : String} {existing : AuthenticatedKey}
    (h : store.getKey id = .ok (some existing)) : existing.limits.stored = existing.limits := by
  obtain ⟨row, -, -, hkey⟩ := exists_valid_of_getKey h
  rw [(rowToKey_eq_ok hkey).2, KeyLimits.stored_eq_self_iff]
  simp

/-- Revoking takes out the rows with the id. -/
theorem validRows_revokeKey (id : String) (unixSeconds : UInt64) :
    (store.revokeKey id unixSeconds).validRows =
      store.validRows.filter fun row => row.id ≠ id := by
  unfold validRows revokeKey Table.update
  induction store.apiKeys with
  | nil => rfl
  | cons row rows ih =>
      rw [List.map_cons]
      by_cases hid : row.id = id
      · rw [if_pos (by simpa using hid), List.filter_cons_of_neg (by simp), ih]
        by_cases hlive : row.revokedAtUnixSeconds = none
        · rw [List.filter_cons_of_pos (by simpa using hlive),
            List.filter_cons_of_neg (by simp [hid])]
        · rw [List.filter_cons_of_neg (by simpa using hlive)]
      · rw [if_neg (by simpa using hid)]
        by_cases hlive : row.revokedAtUnixSeconds = none
        · rw [List.filter_cons_of_pos (by simpa using hlive),
            List.filter_cons_of_pos (by simpa using hlive),
            List.filter_cons_of_pos (by simpa using hid), ih]
        · rw [List.filter_cons_of_neg (by simpa using hlive),
            List.filter_cons_of_neg (by simpa using hlive), ih]

/-- A valid key that is revoked is missing. -/
theorem validRows_revokeKey_ne {id : String} {existing : AuthenticatedKey}
    (h : store.getKey id = .ok (some existing)) (unixSeconds : UInt64) :
    (store.revokeKey id unixSeconds).validRows ≠ store.validRows := by
  obtain ⟨row, hrow, hid, -⟩ := exists_valid_of_getKey h
  rw [validRows_revokeKey]
  intro hsame
  have hne := (List.mem_filter.mp (hsame ▸ hrow)).2
  exact absurd hid (by simpa using hne)

/-- A key can be created if it can be hashed and written and its id and prefix are free. -/
def Creatable (argon : Argon2) (store : SqliteKeyStore) (draw : Draw) : Prop :=
  (∃ keyHash, argon.hash draw.salt draw.rawKey = some keyHash) ∧ draw.writable = true ∧
    ∀ row ∈ store.apiKeys, draw.idText ≠ row.id ∧ String.ofList draw.part ≠ row.keyPrefix

section CreateKey

variable {draw : Draw} (label : String) (role : KeyRole) (limits : KeyLimits)
  (cacheEnabled : Bool)

theorem newRow_free_iff (keyHash : String) (rows : List ApiKeyRow) :
    (∀ column ∈ [ApiKeyRow.id, ApiKeyRow.keyPrefix],
        column (newRow label role limits cacheEnabled draw keyHash) ∉ rows.map column) ↔
      ∀ row ∈ rows, draw.idText ≠ row.id ∧ String.ofList draw.part ≠ row.keyPrefix := by
  simp only [List.forall_mem_cons, List.not_mem_nil, false_imp_iff, implies_true, and_true,
    List.mem_map, not_exists, not_and]
  constructor
  · rintro ⟨hid, hpart⟩ row hrow
    exact ⟨fun heq => hid row hrow heq.symm, fun heq => hpart row hrow heq.symm⟩
  · intro hfree
    exact ⟨fun row hrow heq => (hfree row hrow).1 heq.symm,
      fun row hrow heq => (hfree row hrow).2 heq.symm⟩

theorem createKey_of_creatable (h : Creatable argon store draw) :
    ∃ row, rowToKey row =
        .ok ⟨draw.idText, String.ofList draw.part, label, role, limits.stored, cacheEnabled⟩ ∧
      row.revokedAtUnixSeconds = none ∧
      store.createKey argon label role limits cacheEnabled draw =
        (.ok ⟨draw.idText, String.ofList draw.part, draw.rawKey⟩,
          { store with apiKeys := store.apiKeys ++ [row] }) := by
  obtain ⟨⟨keyHash, hhash⟩, hwritable, hfree⟩ := h
  refine ⟨newRow label role limits cacheEnabled draw keyHash, rowToKey_newRow .., rfl, ?_⟩
  have hinsert := Table.insert_eq_some.mpr
    ⟨(newRow_free_iff label role limits cacheEnabled keyHash store.apiKeys).mpr hfree, rfl⟩
  rw [createKey, hhash]
  simp only [insertRow, hwritable, if_true, hinsert]

theorem createKey_of_not_creatable (h : ¬ Creatable argon store draw) :
    ∃ e, store.createKey argon label role limits cacheEnabled draw = (.error e, store) := by
  unfold createKey
  split
  · exact ⟨_, rfl⟩
  · next keyHash hhash =>
      split
      · exact ⟨_, rfl⟩
      · next rows hwritten =>
          obtain ⟨hwritable, hinsert⟩ := Option.ite_none_right_eq_some.mp hwritten
          obtain ⟨hfree, -⟩ := Table.insert_eq_some.mp hinsert
          exact absurd ⟨⟨keyHash, hhash⟩, hwritable, (newRow_free_iff ..).mp hfree⟩ h

end CreateKey

/-- Revoking neither takes nor frees an id or a prefix. -/
theorem creatable_revokeKey {id : String} {unixSeconds : UInt64} {draw : Draw} :
    Creatable argon (store.revokeKey id unixSeconds) draw ↔ Creatable argon store draw := by
  unfold Creatable revokeKey Table.update
  refine and_congr_right fun _ => and_congr_right fun _ => ?_
  rw [List.forall_mem_map]
  refine forall₂_congr fun row _ => ?_
  split
  · rfl
  · rfl

/-- Rotation is all or nothing exactly if nothing can fail behind the revocation. -/
theorem rotate_allOrNothing_iff (id label : String) (role : Option String) (unixSeconds : UInt64)
    (draw : Draw) :
    store.AllOrNothing id label role (store.rotate argon id label role unixSeconds draw) ↔
      ∀ existing, store.getKey id = .ok (some existing) →
        (∃ newRole, replacementRole role existing = .ok newRole) ∧
          Creatable argon store draw := by
  unfold rotate
  split
  · next e hget =>
      rw [hget]
      exact iff_of_true rfl nofun
  · next hget =>
      rw [hget]
      exact iff_of_true rfl nofun
  · next existing hget =>
      have hmissing := validRows_revokeKey_ne hget unixSeconds
      have hcond : (∀ found, store.getKey id = .ok (some found) →
          (∃ newRole, replacementRole role found = .ok newRole) ∧ Creatable argon store draw) ↔
          (∃ newRole, replacementRole role existing = .ok newRole) ∧
            Creatable argon store draw := by
        rw [hget]
        constructor
        · intro hall
          exact hall existing rfl
        · intro h found hfound
          cases hfound
          exact h
      rw [hcond]
      simp only
      cases hrole : replacementRole role existing with
      | error e => exact iff_of_false hmissing (by simp)
      | ok newRole =>
          simp only
          by_cases hcreate : Creatable argon store draw
          · obtain ⟨row, hkey, hlive, heq⟩ := createKey_of_creatable label newRole existing.limits
              existing.cacheEnabled (creatable_revokeKey.mpr hcreate)
            rw [heq]
            refine iff_of_true ?_ ⟨⟨newRole, rfl⟩, hcreate⟩
            rw [stored_of_getKey hget] at hkey
            refine ⟨existing, newRole, row, hget, hrole, hkey, ?_⟩
            rw [← validRows_revokeKey id unixSeconds]
            simp [validRows, hlive]
          · obtain ⟨e, heq⟩ := createKey_of_not_creatable label newRole existing.limits
              existing.cacheEnabled (mt creatable_revokeKey.mp hcreate)
            rw [heq]
            exact iff_of_false hmissing fun h => hcreate h.2

/-- A role that does not exist costs the only key of the store. -/
theorem rotate_unknown_role :
    let draw : Draw := ⟨0, 1, 2, 3, "salt", 1000, true⟩
    let row := newRow "ci" .inference {} true draw "hash"
    let store : SqliteKeyStore := { apiKeys := [row] }
    let outcome := store.rotate ⟨fun _ rawKey => some rawKey, fun _ _ => some true⟩ draw.idText
      "ci" (some "owner") 2000 ⟨4, 5, 6, 7, "salt", 2000, true⟩
    outcome.1 = .error (.auth (.invalidRole "owner")) ∧ store.validRows = [row] ∧
      outcome.2.validRows = [] := by
  decide +kernel

end SqliteKeyStore
end RustyGate
