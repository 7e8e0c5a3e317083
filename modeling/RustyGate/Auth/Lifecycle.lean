/-
The life of an API key.

Seen from outside, the store is a ring of raw keys: creating a key puts it on the ring with
the rights it was given, revoking an id takes the key with that id off, and a string
authenticates as the key it is on the ring.  `Tracks` says that the unrevoked rows of the
table stand for the entries of the ring.  Every call keeps it, and with Argon2 accepting
exactly the key that was hashed it determines what `authenticate` answers.
-/
import RustyGate.Auth.Keys

namespace RustyGate

/-- Verification accepts the key that was hashed and no other. -/
def Argon2.Exact (argon : Argon2) : Prop :=
  ∀ salt rawKey hash, argon.hash salt rawKey = some hash →
    ∀ s, argon.verify s hash = some (decide (s = rawKey))

namespace Argon2

/-- Hashing that keeps the key as it is. -/
def plain : Argon2 where
  hash _ rawKey := some rawKey
  verify rawKey hash := some (decide (rawKey = hash))

theorem plain_exact : plain.Exact := by
  intro salt rawKey hash h s
  cases h
  rfl

end Argon2

inductive KeyCall where
  | createKey (label : String) (role : KeyRole) (limits : KeyLimits) (cacheEnabled : Bool)
      (draw : Draw)
  | revokeKey (id : String) (unixSeconds : UInt64)
  deriving DecidableEq, Repr

/-- What has happened, for the one who made the call. -/
inductive KeyEvent where
  | created (rawKey : String) (key : AuthenticatedKey)
  | refused
  | revoked (id : String)
  deriving DecidableEq, Repr

/-- The raw keys in force, each with the rights it was created with. -/
abbrev KeyRing := List (String × AuthenticatedKey)

def KeyRing.after (ring : KeyRing) : KeyEvent → KeyRing
  | .created rawKey key => ring ++ [(rawKey, key)]
  | .refused => ring
  | .revoked id => ring.filter fun entry => entry.2.id ≠ id

/-- The keys in force after what has happened. -/
def inForce (events : List KeyEvent) : KeyRing := events.foldl KeyRing.after []

namespace SqliteKeyStore

variable (argon : Argon2)

/-- The key that `create_key` has made, with what its caller has asked for.  A cost quota that
is NaN is no quota. -/
def createdEvent (label : String) (role : KeyRole) (limits : KeyLimits) (cacheEnabled : Bool) :
    Except AuthError GeneratedApiKey → KeyEvent
  | .ok generated =>
      .created generated.rawKey
        ⟨generated.id, generated.keyPrefix, label, role, limits.stored, cacheEnabled⟩
  | .error _ => .refused

def perform (store : SqliteKeyStore) : KeyCall → KeyEvent × SqliteKeyStore
  | .createKey label role limits cacheEnabled draw =>
      (store.createKey argon label role limits cacheEnabled draw).map
        (createdEvent label role limits cacheEnabled) id
  | .revokeKey id unixSeconds => (.revoked id, store.revokeKey id unixSeconds)

def run (store : SqliteKeyStore) (calls : List KeyCall) : SqliteKeyStore :=
  calls.foldl (fun store call => (store.perform argon call).2) store

def history (store : SqliteKeyStore) : List KeyCall → List KeyEvent
  | [] => []
  | call :: calls =>
      (store.perform argon call).1 :: history (store.perform argon call).2 calls

/-! ## Rows and the keys they stand for -/

/-- The row stands for the raw key, and is read as the key with its rights. -/
structure Holds (row : ApiKeyRow) (rawKey : String) (key : AuthenticatedKey) : Prop where
  hashed : ∃ salt, argon.hash salt rawKey = some row.keyHash
  reads : rowToKey row = .ok key
  parses : parseKeyPrefix rawKey = .ok row.keyPrefix

structure Tracks (store : SqliteKeyStore) (ring : KeyRing) : Prop where
  unique : Table.Unique ApiKeyRow.keyPrefix store.apiKeys
  row_of : ∀ entry ∈ ring, ∃ row ∈ store.apiKeys,
    row.revokedAtUnixSeconds = none ∧ Holds argon row entry.1 entry.2
  entry_of : ∀ row ∈ store.apiKeys, row.revokedAtUnixSeconds = none →
    ∃ entry ∈ ring, Holds argon row entry.1 entry.2

variable {argon} {store : SqliteKeyStore} {ring : KeyRing}

theorem tracks_empty : Tracks argon {} [] where
  unique := Table.unique_nil
  row_of := by simp
  entry_of := by simp

/-- A created key is put on the ring, and where none is created nothing changes. -/
theorem Tracks.createKey (h : Tracks argon store ring) (label : String) (role : KeyRole)
    (limits : KeyLimits) (cacheEnabled : Bool) (draw : Draw) :
    Tracks argon (store.createKey argon label role limits cacheEnabled draw).2
      (ring.after (createdEvent label role limits cacheEnabled
        (store.createKey argon label role limits cacheEnabled draw).1)) := by
  unfold SqliteKeyStore.createKey
  cases hhash : argon.hash draw.salt draw.rawKey with
  | none => exact h
  | some keyHash =>
      dsimp only
      cases hwritten : store.insertRow draw
          (newRow label role limits cacheEnabled draw keyHash) with
      | none => exact h
      | some apiKeys =>
          have hinsert := (Option.ite_none_right_eq_some.mp hwritten).2
          obtain ⟨-, rfl⟩ := Table.insert_eq_some.mp hinsert
          have hnew : Holds argon (newRow label role limits cacheEnabled draw keyHash) draw.rawKey
              ⟨draw.idText, String.ofList draw.part, label, role, limits.stored, cacheEnabled⟩ :=
            ⟨⟨draw.salt, hhash⟩, rowToKey_newRow label role limits cacheEnabled draw keyHash,
              draw.parseKeyPrefix_rawKey⟩
          refine ⟨h.unique.insert (by simp) hinsert, ?_, ?_⟩
          · intro entry hentry
            rcases List.mem_append.mp hentry with hold | hlast
            · obtain ⟨row, hrow, hholds⟩ := h.row_of entry hold
              exact ⟨row, List.mem_append_left _ hrow, hholds⟩
            · obtain rfl := List.mem_singleton.mp hlast
              exact ⟨_, List.mem_append_right _ List.mem_cons_self, rfl, hnew⟩
          · intro row hrow hlive
            rcases List.mem_append.mp hrow with hold | hlast
            · obtain ⟨entry, hentry, hholds⟩ := h.entry_of row hold hlive
              exact ⟨entry, List.mem_append_left _ hentry, hholds⟩
            · obtain rfl := List.mem_singleton.mp hlast
              exact ⟨_, List.mem_append_right _ List.mem_cons_self, hnew⟩

/-- A revocation takes the key off the ring, the first time and every other time. -/
theorem Tracks.revokeKey (h : Tracks argon store ring) (id : String) (unixSeconds : UInt64) :
    Tracks argon (store.revokeKey id unixSeconds) (ring.after (.revoked id)) := by
  refine ⟨h.unique.update fun _ => rfl, ?_, ?_⟩
  · intro entry hentry
    obtain ⟨hold, hid⟩ := List.mem_filter.mp hentry
    obtain ⟨row, hrow, hlive, hholds⟩ := h.row_of entry hold
    have hne : row.id ≠ id := (rowToKey_eq_ok hholds.reads).1 ▸ of_decide_eq_true hid
    refine ⟨row, List.mem_map.mpr ⟨row, hrow, ?_⟩, hlive, hholds⟩
    exact if_neg (by simpa using hne)
  · intro row' hrow' hlive
    obtain ⟨row, hrow, rfl⟩ := List.mem_map.mp hrow'
    by_cases hid : row.id = id
    · rw [if_pos (decide_eq_true hid)] at hlive
      cases hlive
    · rw [if_neg (by simpa using hid)] at hlive ⊢
      obtain ⟨entry, hentry, hholds⟩ := h.entry_of row hrow hlive
      refine ⟨entry, List.mem_filter.mpr ⟨hentry, decide_eq_true ?_⟩, hholds⟩
      rwa [(rowToKey_eq_ok hholds.reads).1]

theorem Tracks.perform (h : Tracks argon store ring) (call : KeyCall) :
    Tracks argon (store.perform argon call).2 (ring.after (store.perform argon call).1) := by
  cases call with
  | createKey label role limits cacheEnabled draw =>
      exact h.createKey label role limits cacheEnabled draw
  | revokeKey id unixSeconds => exact h.revokeKey id unixSeconds

theorem Tracks.run (h : Tracks argon store ring) (calls : List KeyCall) :
    Tracks argon (store.run argon calls)
      ((store.history argon calls).foldl KeyRing.after ring) := by
  induction calls generalizing store ring with
  | nil => exact h
  | cons call calls ih => exact ih (h.perform call)

/-! ## Authentication -/

theorem mem_of_selectLive {part : String} {row : ApiKeyRow} (h : store.selectLive part = some row) :
    row ∈ store.apiKeys ∧ row.keyPrefix = part ∧ row.revokedAtUnixSeconds = none :=
  ⟨List.mem_of_find?_eq_some h, by simpa using List.find?_some h⟩

/-- The prefix is unique, so the lookup finds this row and no other. -/
theorem selectLive_of_mem (hunique : Table.Unique ApiKeyRow.keyPrefix store.apiKeys)
    {row : ApiKeyRow} (hrow : row ∈ store.apiKeys) (hlive : row.revokedAtUnixSeconds = none) :
    store.selectLive row.keyPrefix = some row := by
  cases hfound : store.selectLive row.keyPrefix with
  | none => simpa [hlive] using List.find?_eq_none.mp hfound row hrow
  | some found =>
      obtain ⟨hmem, hsame, -⟩ := mem_of_selectLive hfound
      rw [hunique.eq hmem hrow hsame]

theorem authenticate_of_parse {s part : String} (h : parseKeyPrefix s = .ok part) :
    store.authenticate argon s =
      (store.selectLive part).elim (.ok none) (verifiedKey argon s) := by
  unfold authenticate
  rw [h]
  dsimp only [bind, Except.bind]
  cases store.selectLive part <;> rfl

theorem authenticate_of_parse_error {s : String} {e : AuthError}
    (h : parseKeyPrefix s = .error e) : store.authenticate argon s = .error e := by
  unfold authenticate
  rw [h]
  rfl

/-- With exact verification a row lets in the raw key it stands for and no other string. -/
theorem Holds.verifiedKey_eq (hargon : argon.Exact) {row : ApiKeyRow} {rawKey : String}
    {key : AuthenticatedKey} (h : Holds argon row rawKey key) (s : String) :
    verifiedKey argon s row = .ok (if s = rawKey then some key else none) := by
  obtain ⟨salt, hhash⟩ := h.hashed
  unfold verifiedKey
  rw [hargon salt rawKey row.keyHash hhash s]
  by_cases hs : s = rawKey
  · rw [decide_eq_true hs, if_pos hs]
    dsimp only
    rw [h.reads]
    rfl
  · rw [decide_eq_false hs, if_neg hs]

theorem authenticate_of_mem (hargon : argon.Exact) (h : Tracks argon store ring) {s : String}
    {key : AuthenticatedKey} (hmem : (s, key) ∈ ring) :
    store.authenticate argon s = .ok (some key) := by
  obtain ⟨row, hrow, hlive, hholds⟩ := h.row_of _ hmem
  rw [authenticate_of_parse hholds.parses, selectLive_of_mem h.unique hrow hlive, Option.elim_some,
    hholds.verifiedKey_eq hargon, if_pos rfl]

theorem authenticate_of_not_mem (hargon : argon.Exact) (h : Tracks argon store ring) {s : String}
    (hnot : ∀ key, (s, key) ∉ ring) :
    store.authenticate argon s = .ok none ∨
      store.authenticate argon s = .error .invalidKeyFormat := by
  cases hparse : parseKeyPrefix s with
  | error e =>
      obtain rfl := parseKeyPrefix_error hparse
      exact Or.inr (authenticate_of_parse_error hparse)
  | ok part =>
      refine Or.inl ?_
      rw [authenticate_of_parse hparse]
      cases hfound : store.selectLive part with
      | none => rfl
      | some row =>
          obtain ⟨hrow, -, hlive⟩ := mem_of_selectLive hfound
          obtain ⟨entry, hentry, hholds⟩ := h.entry_of row hrow hlive
          have hne : s ≠ entry.1 := fun he => hnot entry.2 (he ▸ hentry)
          rw [Option.elim_some, hholds.verifiedKey_eq hargon, if_neg hne]

/-- A string that authenticates is on the ring. -/
theorem mem_of_authenticate (hargon : argon.Exact) (h : Tracks argon store ring) {s : String}
    {key : AuthenticatedKey} (hauth : store.authenticate argon s = .ok (some key)) :
    (s, key) ∈ ring := by
  by_cases hknown : ∃ other, (s, other) ∈ ring
  · obtain ⟨other, hother⟩ := hknown
    rw [authenticate_of_mem hargon h hother] at hauth
    cases hauth
    exact hother
  · rcases authenticate_of_not_mem hargon h (not_exists.mp hknown) with hnone | herror
    · rw [hnone] at hauth
      cases hauth
    · rw [herror] at hauth
      cases hauth

/-- After any calls, a string authenticates exactly as the key it is, if that key has been
created and not been revoked since, with the rights it was created with.  Every other
string is unknown or no key at all. -/
theorem authenticate_iff_inForce (hargon : argon.Exact) (calls : List KeyCall) (s : String) :
    (∀ key, authenticate argon (run argon {} calls) s = .ok (some key) ↔
        (s, key) ∈ inForce (history argon {} calls)) ∧
      ((∀ key, (s, key) ∉ inForce (history argon {} calls)) →
        authenticate argon (run argon {} calls) s = .ok none ∨
          authenticate argon (run argon {} calls) s = .error .invalidKeyFormat) := by
  have h : Tracks argon (run argon {} calls) (inForce (history argon {} calls)) :=
    tracks_empty.run calls
  exact ⟨fun key => ⟨mem_of_authenticate hargon h, authenticate_of_mem hargon h⟩,
    authenticate_of_not_mem hargon h⟩

/-- A key with the largest limits, a second one that is revoked twice, and a revocation of
an unknown id. -/
def twoKeys : List KeyCall :=
  [.createKey "first" .inference
      ⟨some 4294967295, some 18446744073709551615, some (.number (.finite 2))⟩ false
      ⟨1, 1 <<< 96, 2, 3, "salt", 0, true⟩,
    .createKey "second" .admin {} true ⟨2, 2 <<< 96, 4, 5, "salt", 0, true⟩,
    .revokeKey (uuidText 2) 10, .revokeKey "unknown" 11, .revokeKey (uuidText 2) 12]

theorem authenticate_twoKeys :
    Argon2.plain.Exact ∧
      authenticate .plain (run .plain {} twoKeys)
          "rgk_00000001_0000000000000000000000000000000200000000000000000000000000000003" =
        .ok (some ⟨"00000000-0000-0000-0000-000000000001", "00000001", "first", .inference,
          ⟨some 4294967295, some 18446744073709551615, some (.number (.finite 2))⟩, false⟩) ∧
      (authenticate .plain (run .plain {} twoKeys)
            "rgk_00000002_0000000000000000000000000000000400000000000000000000000000000005" =
          .ok none ∨
        authenticate .plain (run .plain {} twoKeys)
            "rgk_00000002_0000000000000000000000000000000400000000000000000000000000000005" =
          .error .invalidKeyFormat) := by
  have hring : inForce (history .plain {} twoKeys) =
      [("rgk_00000001_0000000000000000000000000000000200000000000000000000000000000003",
        ⟨"00000000-0000-0000-0000-000000000001", "00000001", "first", .inference,
          ⟨some 4294967295, some 18446744073709551615, some (.number (.finite 2))⟩, false⟩)] := by
    decide +kernel
  refine ⟨Argon2.plain_exact, ?_, ?_⟩
  · refine ((authenticate_iff_inForce Argon2.plain_exact twoKeys _).1 _).mpr ?_
    rw [hring]
    exact List.mem_cons_self
  · refine (authenticate_iff_inForce Argon2.plain_exact twoKeys _).2 fun key hmem => ?_
    rw [hring, List.mem_singleton, Prod.mk.injEq] at hmem
    exact absurd hmem.1 (by decide)

end SqliteKeyStore

end RustyGate
