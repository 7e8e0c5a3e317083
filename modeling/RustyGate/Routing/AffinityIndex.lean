/-
Runs of the index that remembers who served a prefix (`src/routing/prefix_affinity.rs`).

What the index holds for a fingerprint is its latest record (`get?_after`), if anything.  A
record is forgotten when it has expired or to make room.  Both a record and a lookup that
finds something move a fingerprint to the front, so what counts for the room are the
fingerprints that have been recorded or found since, not only those that have been recorded
(`behind_after`).
-/
import RustyGate.Routing.Affinity
import Mathlib.Data.List.Induction

namespace RustyGate

/-! ## Calls -/

inductive IndexOp where
  | record (fingerprint providerName : String)
  | lookup (fingerprint : String)
  deriving DecidableEq, Repr

structure IndexCall where
  now : Nat
  op : IndexOp
  deriving DecidableEq, Repr

namespace IndexCall

/-- The provider and the time that the call records for the fingerprint. -/
def recordFor (fingerprint : String) (c : IndexCall) : Option (String × Nat) :=
  match c.op with
  | .record recorded providerName =>
      if recorded = fingerprint then some (providerName, c.now) else none
  | .lookup _ => none

end IndexCall

/-- The provider and the time of the latest record for the fingerprint. -/
def latestRecord (fingerprint : String) (calls : List IndexCall) : Option (String × Nat) :=
  calls.reverse.findSome? (IndexCall.recordFor fingerprint)

namespace PrefixAffinityIndex

def perform (index : PrefixAffinityIndex) (c : IndexCall) : PrefixAffinityIndex :=
  match c.op with
  | .record fingerprint providerName => index.record c.now fingerprint providerName
  | .lookup fingerprint => (index.lookup c.now fingerprint).2

def after (index : PrefixAffinityIndex) (calls : List IndexCall) : PrefixAffinityIndex :=
  calls.foldl perform index

/-- The fingerprint that the call records or finds. -/
def used (index : PrefixAffinityIndex) (c : IndexCall) : Option String :=
  match c.op with
  | .record fingerprint _ => some fingerprint
  | .lookup fingerprint =>
      if (index.lookup c.now fingerprint).1.isSome then some fingerprint else none

/-- The fingerprints that the calls record or find, in this order. -/
def uses : PrefixAffinityIndex → List IndexCall → List String
  | _, [] => []
  | index, c :: rest => (index.used c).toList ++ uses (index.perform c) rest

/-- Which other fingerprints are recorded or found after the fingerprint was for the last
time. -/
def usedSince (index : PrefixAffinityIndex) (calls : List IndexCall) (fingerprint : String) :
    Finset String :=
  ((index.uses calls).reverse.takeWhile (· ≠ fingerprint)).toFinset

/-- The same for those that are recorded, with the ones counted so far. -/
def recordedSince : PrefixAffinityIndex → List IndexCall → String → Finset String → Finset String
  | _, [], _, since => since
  | index, c :: rest, fingerprint, since =>
      recordedSince (index.perform c) rest fingerprint
        (if index.used c = some fingerprint then ∅
          else
            match c.op with
            | .record recorded _ => insert recorded since
            | .lookup _ => since)

variable {index : PrefixAffinityIndex} {calls : List IndexCall} {c : IndexCall}
  {fingerprint : String}

/-! ## One more call -/

theorem after_concat : index.after (calls ++ [c]) = (index.after calls).perform c := by
  rw [after, List.foldl_append]
  rfl

theorem latestRecord_concat :
    latestRecord fingerprint (calls ++ [c]) =
      (c.recordFor fingerprint).or (latestRecord fingerprint calls) := by
  rw [latestRecord, List.reverse_concat, List.findSome?_cons]
  cases c.recordFor fingerprint <;> rfl

theorem uses_concat :
    index.uses (calls ++ [c]) = index.uses calls ++ ((index.after calls).used c).toList := by
  induction calls generalizing index with
  | nil => simp [uses, after]
  | cons first rest ih =>
      rw [List.cons_append, uses, ih, uses, List.append_assoc]
      rfl

theorem usedSince_concat_none (h : (index.after calls).used c = none) :
    index.usedSince (calls ++ [c]) fingerprint = index.usedSince calls fingerprint := by
  rw [usedSince, uses_concat, h, Option.toList_none, List.append_nil, usedSince]

theorem usedSince_concat_self (h : (index.after calls).used c = some fingerprint) :
    index.usedSince (calls ++ [c]) fingerprint = ∅ := by
  rw [usedSince, uses_concat, h, Option.toList_some, List.reverse_concat,
    List.takeWhile_cons_of_neg (by simp)]
  rfl

theorem usedSince_concat_ne {other : String} (h : (index.after calls).used c = some other)
    (hother : other ≠ fingerprint) :
    index.usedSince (calls ++ [c]) fingerprint =
      insert other (index.usedSince calls fingerprint) := by
  rw [usedSince, uses_concat, h, Option.toList_some, List.reverse_concat,
    List.takeWhile_cons_of_pos (by simpa using hother), List.toFinset_cons, usedSince]

/-! ## What a lookup does -/

/-- The three outcomes of a lookup. -/
inductive LookupExit (index : PrefixAffinityIndex) (now : Nat) (fingerprint : String) :
    Option String × PrefixAffinityIndex → Prop
  | absent (hget : index.entries.get? fingerprint = none) :
      LookupExit index now fingerprint (none, index)
  | expired {entry : PrefixAffinityEntry} (hget : index.entries.get? fingerprint = some entry)
      (hold : index.ttl < now - entry.updatedAt) :
      LookupExit index now fingerprint
        (none, { index with entries := (index.entries.touch fingerprint).pop fingerprint })
  | found {entry : PrefixAffinityEntry} (hget : index.entries.get? fingerprint = some entry)
      (hfresh : now - entry.updatedAt ≤ index.ttl) :
      LookupExit index now fingerprint
        (some entry.providerName, { index with entries := index.entries.touch fingerprint })

theorem lookup_exit (index : PrefixAffinityIndex) (now : Nat) (fingerprint : String) :
    LookupExit index now fingerprint (index.lookup now fingerprint) := by
  unfold lookup
  cases hget : index.entries.get? fingerprint with
  | none => exact .absent hget
  | some entry =>
      simp only
      by_cases hold : index.ttl < now - entry.updatedAt
      · rw [if_pos hold]
        exact .expired hget hold
      · rw [if_neg hold]
        exact .found hget (Nat.not_lt.mp hold)

theorem ttl_cap_perform :
    (index.perform c).ttl = index.ttl ∧ (index.perform c).entries.cap = index.entries.cap := by
  unfold perform
  cases c.op with
  | record recorded providerName => exact ⟨rfl, rfl⟩
  | lookup sought =>
      have hexit := index.lookup_exit c.now sought
      simp only
      generalize index.lookup c.now sought = result at hexit
      cases hexit with
      | absent hget => exact ⟨rfl, rfl⟩
      | expired hget hold => exact ⟨rfl, Lru.cap_touch⟩
      | found hget hfresh => exact ⟨rfl, Lru.cap_touch⟩

theorem ttl_cap_after (index : PrefixAffinityIndex) (calls : List IndexCall) :
    (index.after calls).ttl = index.ttl ∧
      (index.after calls).entries.cap = index.entries.cap := by
  induction calls generalizing index with
  | nil => exact ⟨rfl, rfl⟩
  | cons c rest ih =>
      obtain ⟨httl, hcap⟩ := ih (index.perform c)
      exact ⟨httl.trans ttl_cap_perform.1, hcap.trans ttl_cap_perform.2⟩

/-! ## The latest record -/

variable {entry : PrefixAffinityEntry} {sought : String}

/-- An entry was recorded by the call, or it was there before. -/
theorem get?_perform (h : (index.perform c).entries.get? fingerprint = some entry) :
    c.recordFor fingerprint = some (entry.providerName, entry.updatedAt) ∨
      c.recordFor fingerprint = none ∧ index.entries.get? fingerprint = some entry := by
  unfold perform at h
  unfold IndexCall.recordFor
  cases hop : c.op with
  | record recorded providerName =>
      rw [hop] at h
      by_cases hrecorded : recorded = fingerprint
      · subst hrecorded
        have hself : (index.record c.now recorded providerName).entries.get? recorded =
            some ⟨providerName, c.now⟩ := Lru.get?_use_self
        obtain rfl := Option.some.inj (hself.symm.trans h)
        exact .inl (if_pos rfl)
      · refine .inr ⟨if_neg hrecorded, ?_⟩
        have hother : (index.record c.now recorded providerName).entries.get? fingerprint =
              index.entries.get? fingerprint ∨
            (index.record c.now recorded providerName).entries.get? fingerprint = none :=
          Lru.get?_use_ne_or (Ne.symm hrecorded)
        rcases hother with hsame | hgone
        · exact hsame.symm.trans h
        · cases hgone.symm.trans h
  | lookup sought =>
      rw [hop] at h
      refine .inr ⟨rfl, ?_⟩
      have hexit := index.lookup_exit c.now sought
      simp only at h
      generalize index.lookup c.now sought = result at hexit h
      cases hexit with
      | absent hget => exact h
      | expired hget hold =>
          by_cases hsought : fingerprint = sought
          · subst hsought
            cases Lru.get?_pop_self.symm.trans h
          · have hsame : ((index.entries.touch sought).pop sought).get? fingerprint =
                index.entries.get? fingerprint :=
              (Lru.get?_pop_ne hsought).trans (Lru.get?_touch _ _ _)
            exact hsame.symm.trans h
      | found hget hfresh => exact (Lru.get?_touch _ _ _).symm.trans h

theorem get?_after (hnew : index.entries.get? fingerprint = none)
    (h : (index.after calls).entries.get? fingerprint = some entry) :
    latestRecord fingerprint calls = some (entry.providerName, entry.updatedAt) := by
  induction calls using List.reverseRecOn with
  | nil => cases hnew.symm.trans h
  | append_singleton earlier c ih =>
      rw [after_concat] at h
      rw [latestRecord_concat]
      rcases get?_perform h with hrecord | ⟨hrecord, hold⟩
      · rw [hrecord]
        rfl
      · rw [hrecord, Option.none_or]
        exact ih hold

/-! ## How long a record is kept -/

theorem perform_record {recorded providerName : String}
    (hop : c.op = .record recorded providerName) :
    index.perform c = index.record c.now recorded providerName := by
  rw [perform, hop]

theorem perform_lookup (hop : c.op = .lookup sought) :
    index.perform c = (index.lookup c.now sought).2 := by
  rw [perform, hop]

theorem used_record {recorded providerName : String} (hop : c.op = .record recorded providerName) :
    index.used c = some recorded := by
  rw [used, hop]

theorem used_lookup_found (hop : c.op = .lookup sought) {found : String}
    (h : (index.lookup c.now sought).1 = some found) : index.used c = some sought := by
  rw [used, hop]
  simp [h]

theorem used_lookup_none (hop : c.op = .lookup sought) (h : (index.lookup c.now sought).1 = none) :
    index.used c = none := by
  rw [used, hop]
  simp [h]

/-- Another fingerprint is recorded or found, and its entry moves to the front. -/
theorem behind_concat_ne {other : String} (hused : (index.after calls).used c = some other)
    (hother : other ≠ fingerprint)
    (hstep : ∀ ahead, (index.after calls).entries.Behind ahead fingerprint entry → (insert other
      ahead).card < (index.after calls).entries.cap → ((index.after calls).perform c).entries.Behind
      (insert other ahead) fingerprint entry)
    (hkept : (index.usedSince calls fingerprint).card < index.entries.cap → (index.after
      calls).entries.Behind (index.usedSince calls fingerprint) fingerprint entry)
    (hroom : (index.usedSince (calls ++ [c]) fingerprint).card < index.entries.cap) :
    (index.after (calls ++ [c])).entries.Behind (index.usedSince (calls ++ [c]) fingerprint)
      fingerprint entry := by
  rw [usedSince_concat_ne hused hother] at hroom ⊢
  rw [after_concat]
  have hless : (index.usedSince calls fingerprint).card ≤
      (insert other (index.usedSince calls fingerprint)).card :=
    Finset.card_le_card (Finset.subset_insert _ _)
  apply hstep _ (hkept (by omega))
  rw [(ttl_cap_after index calls).2]
  exact hroom

section OneCall

variable {recordedAt : Nat} {providerName : String}
  (hlatest : latestRecord fingerprint (calls ++ [c]) = some (providerName, recordedAt))
  (hkept : c.recordFor fingerprint = none →
    (index.usedSince calls fingerprint).card < index.entries.cap →
    (index.after calls).entries.Behind (index.usedSince calls fingerprint) fingerprint
      ⟨providerName, recordedAt⟩)
  (hroom : (index.usedSince (calls ++ [c]) fingerprint).card < index.entries.cap)

include hlatest hkept hroom

/-- A record is put in front, or stays behind the one that is. -/
theorem behind_concat_record {recorded recordedName : String}
    (hop : c.op = .record recorded recordedName) :
    (index.after (calls ++ [c])).entries.Behind (index.usedSince (calls ++ [c]) fingerprint)
      fingerprint ⟨providerName, recordedAt⟩ := by
  have hused : (index.after calls).used c = some recorded := used_record hop
  by_cases hsame : recorded = fingerprint
  · subst hsame
    have hrecord : c.recordFor recorded = some (recordedName, c.now) := by
      rw [IndexCall.recordFor, hop]
      exact if_pos rfl
    rw [latestRecord_concat, hrecord] at hlatest
    cases hlatest
    rw [usedSince_concat_self hused, after_concat, perform_record hop]
    exact Lru.behind_use_self _ _ _ _
  · have hrecord : c.recordFor fingerprint = none := by
      rw [IndexCall.recordFor, hop]
      exact if_neg hsame
    apply behind_concat_ne hused hsame _ (hkept hrecord) hroom
    intro ahead hbehind hahead
    rw [perform_record hop]
    exact hbehind.use hsame hahead

/-- A lookup may put it in front, too.  What it takes away has expired. -/
theorem behind_concat_lookup (hnew : index.entries.get? fingerprint = none)
    (hop : c.op = .lookup sought) (hfresh : c.now - recordedAt ≤ index.ttl) :
    (index.after (calls ++ [c])).entries.Behind (index.usedSince (calls ++ [c]) fingerprint)
      fingerprint ⟨providerName, recordedAt⟩ := by
  have hrecord : c.recordFor fingerprint = none := by
    rw [IndexCall.recordFor, hop]
  have hexit := (index.after calls).lookup_exit c.now sought
  have hperform : (index.after calls).perform c = _ := perform_lookup hop
  generalize hresult : (index.after calls).lookup c.now sought = result at hexit hperform
  cases hexit with
  | absent hget =>
      have hused := used_lookup_none hop (congrArg Prod.fst hresult)
      rw [usedSince_concat_none hused] at hroom ⊢
      rw [after_concat, hperform]
      exact hkept hrecord hroom
  | expired hget hold =>
      have hused := used_lookup_none hop (congrArg Prod.fst hresult)
      rw [usedSince_concat_none hused] at hroom ⊢
      have hbehind := hkept hrecord hroom
      rw [after_concat, hperform]
      by_cases hsame : sought = fingerprint
      · -- The record is not old enough to expire.
        subst hsame
        rw [hbehind.get?_eq] at hget
        cases hget
        rw [(ttl_cap_after index calls).1] at hold
        simp only at hold
        omega
      · have hpopped := hbehind.pop hsame
        rw [Lru.Behind, ← Lru.entries_pop_touch] at hpopped
        exact hpopped
  | found hget hfound =>
      have hused := used_lookup_found hop (congrArg Prod.fst hresult)
      by_cases hsame : sought = fingerprint
      · subst hsame
        have hrecorded := get?_after hnew hget
        rw [latestRecord_concat, hrecord, Option.none_or, hrecorded] at hlatest
        cases hlatest
        rw [usedSince_concat_self hused, after_concat, hperform]
        exact Lru.behind_touch_self hget
      · apply behind_concat_ne hused hsame _ (hkept hrecord) hroom
        intro ahead hbehind hahead
        rw [hperform]
        exact hbehind.touch hget hsame hahead

end OneCall

/-- The record of a fingerprint is kept until it expires, as long as there is room for it
and the ones used since. -/
theorem behind_after (hnew : index.entries.get? fingerprint = none) {now recordedAt : Nat}
    {providerName : String} (hclock : ∀ c ∈ calls, c.now ≤ now)
    (hlatest : latestRecord fingerprint calls = some (providerName, recordedAt))
    (hfresh : now - recordedAt ≤ index.ttl)
    (hroom : (index.usedSince calls fingerprint).card < index.entries.cap) :
    (index.after calls).entries.Behind (index.usedSince calls fingerprint) fingerprint
      ⟨providerName, recordedAt⟩ := by
  induction calls using List.reverseRecOn with
  | nil => cases hlatest
  | append_singleton earlier c ih =>
      have hnow := hclock c (List.mem_append_right _ (List.mem_singleton_self c))
      have hkept : c.recordFor fingerprint = none →
          (index.usedSince earlier fingerprint).card < index.entries.cap →
          (index.after earlier).entries.Behind (index.usedSince earlier fingerprint) fingerprint
            ⟨providerName, recordedAt⟩ := by
        intro hnone
        rw [latestRecord_concat, hnone, Option.none_or] at hlatest
        exact ih (fun c' hc' => hclock c' (List.mem_append_left _ hc')) hlatest
      cases hop : c.op with
      | record recorded recordedName => exact behind_concat_record hlatest hkept hroom hop
      | lookup sought => exact behind_concat_lookup hlatest hkept hroom hnew hop (by omega)

/-! ## A new index -/

theorem lookup_of_fresh {now : Nat} (hget : index.entries.get? fingerprint = some entry)
    (hfresh : now - entry.updatedAt ≤ index.ttl) :
    (index.lookup now fingerprint).1 = some entry.providerName := by
  have hexit := index.lookup_exit now fingerprint
  generalize index.lookup now fingerprint = result at hexit
  cases hexit with
  | absent hnone => cases hget.symm.trans hnone
  | expired hsome hold =>
      cases hget.symm.trans hsome
      omega
  | found hsome _ =>
      cases hget.symm.trans hsome
      rfl

/-- In every run the index stays within its bound, and a lookup finds nothing but the latest
record, and only if that is fresh.  It does find a fresh record if the other fingerprints
that have been recorded or found since are fewer than the entries there is room for. -/
theorem bounded_expiring_lastWriter (config : PrefixAffinityConfig) (calls : List IndexCall)
    (now : Nat) (hclock : (calls.map IndexCall.now ++ [now]).IsChain (· ≤ ·))
    (fingerprint : String) :
    ((new config).after calls).entries.len ≤ max config.maxEntries 1 ∧
      (∀ providerName,
        (((new config).after calls).lookup now fingerprint).1 = some providerName →
          ∃ recordedAt, latestRecord fingerprint calls = some (providerName, recordedAt) ∧
            now ≤ recordedAt + config.ttlSeconds.toNat * 10 ^ 9) ∧
      ∀ providerName recordedAt,
        latestRecord fingerprint calls = some (providerName, recordedAt) →
        now ≤ recordedAt + config.ttlSeconds.toNat * 10 ^ 9 →
        ((new config).usedSince calls fingerprint).card < max config.maxEntries 1 →
          (((new config).after calls).lookup now fingerprint).1 = some providerName := by
  obtain ⟨httl, hcap⟩ := ttl_cap_after (new config) calls
  have hnew : (new config).entries.get? fingerprint = none := rfl
  refine ⟨?_, ?_, ?_⟩
  · have hfits := ((new config).after calls).entries.fits
    rw [hcap] at hfits
    exact hfits
  · intro providerName hlookup
    have hexit := ((new config).after calls).lookup_exit now fingerprint
    generalize ((new config).after calls).lookup now fingerprint = result at hexit hlookup
    cases hexit with
    | absent hget => cases hlookup
    | expired hget hold => cases hlookup
    | @found entry hget hfresh =>
        obtain rfl := Option.some.inj hlookup
        refine ⟨entry.updatedAt, get?_after hnew hget, ?_⟩
        rw [httl] at hfresh
        exact Nat.sub_le_iff_le_add'.mp hfresh
  · intro providerName recordedAt hlatest hfresh hroom
    have hbefore : ∀ c ∈ calls, c.now ≤ now := by
      intro c hc
      rw [List.isChain_iff_pairwise, List.pairwise_append] at hclock
      exact hclock.2.2 c.now (List.mem_map_of_mem hc) now (List.mem_singleton_self now)
    have hage : now - recordedAt ≤ (new config).ttl := Nat.sub_le_iff_le_add'.mpr hfresh
    have hbehind := behind_after hnew hbefore hlatest hage hroom
    apply lookup_of_fresh hbehind.get?_eq
    rw [httl]
    exact hage

/-- A record that is found after another one, with room for two. -/
theorem bounded_expiring_lastWriter_two :
    ((new ⟨60, 2, 2, .latency⟩).usedSince
        [⟨0, .record "f" "alpha"⟩, ⟨1, .record "g" "beta"⟩] "f").card < max 2 1 ∧
      (((new ⟨60, 2, 2, .latency⟩).after
        [⟨0, .record "f" "alpha"⟩, ⟨1, .record "g" "beta"⟩]).lookup 2 "f").1 = some "alpha" := by
  have hroom : ((new ⟨60, 2, 2, .latency⟩).usedSince
      [⟨0, .record "f" "alpha"⟩, ⟨1, .record "g" "beta"⟩] "f").card < max 2 1 := by
    decide +kernel
  exact ⟨hroom, (bounded_expiring_lastWriter ⟨60, 2, 2, .latency⟩ _ 2 (by decide) "f").2.2
    "alpha" 0 (by decide) (by decide) hroom⟩

/-- With room for two, a fingerprint can be forgotten although only one other has been
recorded since: a third one was found meanwhile and moved in front of it. -/
theorem forgotten_after_one_record :
    ¬∀ (config : PrefixAffinityConfig) (calls : List IndexCall) (now : Nat) (fingerprint : String),
      (calls.map IndexCall.now ++ [now]).IsChain (· ≤ ·) →
      ∀ providerName recordedAt,
        latestRecord fingerprint calls = some (providerName, recordedAt) →
        now ≤ recordedAt + config.ttlSeconds.toNat * 10 ^ 9 →
        ((new config).recordedSince calls fingerprint ∅).card < max config.maxEntries 1 →
          (((new config).after calls).lookup now fingerprint).1 = some providerName := by
  intro hall
  have hfound := hall ⟨60, 2, 2, .latency⟩ [⟨0, .record "g" "beta"⟩, ⟨0, .record "f" "alpha"⟩,
    ⟨0, .lookup "g"⟩, ⟨0, .record "h" "beta"⟩] 0 "f" (by decide) "alpha" 0 (by decide)
    (by decide) (by decide +kernel)
  revert hfound
  decide +kernel

end PrefixAffinityIndex
end RustyGate
