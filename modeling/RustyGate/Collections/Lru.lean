/-
Maps that forget the key that was used longest ago.

The entries are kept in the order of their last use, the latest first.  A map in which
there is room for a key keeps every other entry when the key is used
(`get?_use_ne`); otherwise the last entry goes.  An entry is kept for certain as long as the
keys that have been used since are fewer than the map has room for (`Behind.use`).
-/
import Mathlib.Data.Finset.Card
import Mathlib.Data.List.Basic
import Mathlib.Data.List.Nodup

structure Lru (κ ν : Type) where
  cap : Nat
  entries : List (κ × ν)
  cap_pos : 0 < cap
  nodup : (entries.map Prod.fst).Nodup
  fits : entries.length ≤ cap

namespace Lru

variable {κ ν : Type}

def empty (cap : Nat) (cap_pos : 0 < cap) : Lru κ ν where
  cap := cap
  entries := []
  cap_pos := cap_pos
  nodup := List.nodup_nil
  fits := Nat.zero_le cap

def keys (c : Lru κ ν) : List κ := c.entries.map Prod.fst

def len (c : Lru κ ν) : Nat := c.entries.length

@[simp] theorem keys_empty (cap : Nat) (cap_pos : 0 < cap) :
    (empty cap cap_pos : Lru κ ν).keys = [] := rfl

/-- The entries in front of another have keys of their own. -/
theorem not_mem_front {c : Lru κ ν} {front back : List (κ × ν)} {k : κ} {v : ν}
    (h : c.entries = front ++ (k, v) :: back) {entry : κ × ν} (hentry : entry ∈ front) :
    entry.1 ≠ k := by
  have hnodup := c.nodup
  rw [h, List.map_append, List.map_cons] at hnodup
  intro hkey
  exact (List.nodup_append.mp hnodup).2.2 entry.1 (List.mem_map_of_mem hentry) k
    List.mem_cons_self hkey

variable [DecidableEq κ]

/-- Look at an entry without using it. -/
def get? (c : Lru κ ν) (k : κ) : Option ν :=
  (c.entries.find? fun entry => entry.1 = k).map Prod.snd

def contains (c : Lru κ ν) (k : κ) : Bool := (c.get? k).isSome

/-- The entries without `k`, in front of them `k` with the value `v`, and of these as many
as fit. -/
def used (c : Lru κ ν) (k : κ) (v : ν) : List (κ × ν) :=
  ((k, v) :: c.entries.filter fun entry => entry.1 ≠ k).take c.cap

theorem nodup_used (c : Lru κ ν) (k : κ) (v : ν) : ((c.used k v).map Prod.fst).Nodup := by
  have hall : (((k, v) :: c.entries.filter fun entry => entry.1 ≠ k).map Prod.fst).Nodup := by
    rw [List.map_cons, List.nodup_cons]
    constructor
    · simp
    · exact c.nodup.sublist (List.filter_sublist.map Prod.fst)
  exact hall.sublist ((List.take_sublist _ _).map Prod.fst)

/-- Use the entry of `k`, made with `init` if there is none, and change its value. -/
def use (c : Lru κ ν) (k : κ) (init : ν) (change : ν → ν) : Lru κ ν where
  cap := c.cap
  entries := c.used k (change ((c.get? k).getD init))
  cap_pos := c.cap_pos
  nodup := c.nodup_used k _
  fits := by
    rw [used, List.length_take]
    exact Nat.min_le_left _ _

/-- Use the entry of `k`, if there is one, and leave its value as it is. -/
def touch (c : Lru κ ν) (k : κ) : Lru κ ν :=
  match c.get? k with
  | none => c
  | some v => c.use k v id

/-- Forget `k`. -/
def pop (c : Lru κ ν) (k : κ) : Lru κ ν where
  cap := c.cap
  entries := c.entries.filter fun entry => entry.1 ≠ k
  cap_pos := c.cap_pos
  nodup := c.nodup.sublist (List.filter_sublist.map Prod.fst)
  fits := Nat.le_trans (List.length_filter_le _ _) c.fits

variable {c : Lru κ ν} {k j : κ} {init : ν} {change : ν → ν}

@[simp] theorem cap_use : (c.use k init change).cap = c.cap := rfl

@[simp] theorem get?_empty (cap : Nat) (cap_pos : 0 < cap) :
    (empty cap cap_pos : Lru κ ν).get? k = none := rfl

@[simp] theorem get?_use_self :
    (c.use k init change).get? k = some (change ((c.get? k).getD init)) := by
  obtain ⟨n, hn⟩ := Nat.exists_eq_succ_of_ne_zero (Nat.ne_of_gt c.cap_pos)
  simp [get?, use, used, hn]

/-- There is an entry for `k`, or room for one. -/
def HasRoom (c : Lru κ ν) (k : κ) : Prop := k ∈ c.keys ∨ c.len < c.cap

/-- Nothing is forgotten when there is room. -/
theorem entries_use (hroom : c.HasRoom k) :
    (c.use k init change).entries =
      (k, change ((c.get? k).getD init)) :: c.entries.filter fun entry => entry.1 ≠ k := by
  show List.take _ _ = _
  apply List.take_of_length_le
  rw [List.length_cons]
  rcases hroom with hmem | hlen
  · -- The old entry of `k` is gone.
    obtain ⟨entry, hentry, hkey⟩ := List.mem_map.mp hmem
    have hless : (c.entries.filter fun entry => entry.1 ≠ k).length < c.entries.length := by
      apply List.length_filter_lt_length_iff_exists.mpr
      exact ⟨entry, hentry, by simp [hkey]⟩
    have := c.fits
    omega
  · have hless : (c.entries.filter fun entry => entry.1 ≠ k).length ≤ c.len :=
      List.length_filter_le _ _
    omega

/-- The entry of another key is found without those of `k`. -/
theorem find?_filter_ne (entries : List (κ × ν)) (hj : j ≠ k) :
    ((entries.filter fun entry => entry.1 ≠ k).find? fun entry => entry.1 = j) =
      entries.find? fun entry => entry.1 = j := by
  rw [List.find?_filter]
  congr 1
  funext entry
  by_cases hentry : entry.1 = j
  · simp [hentry, hj]
  · simp [hentry]

theorem get?_use_ne (hroom : c.HasRoom k) (hj : j ≠ k) :
    (c.use k init change).get? j = c.get? j := by
  rw [get?, entries_use hroom, List.find?_cons_of_neg (by simpa using Ne.symm hj),
    find?_filter_ne _ hj, get?]

/-- Without room another entry may be forgotten, but it is not changed. -/
theorem get?_use_ne_or (hj : j ≠ k) :
    (c.use k init change).get? j = c.get? j ∨ (c.use k init change).get? j = none := by
  cases hfound : (c.use k init change).entries.find? fun entry => entry.1 = j with
  | none => exact .inr (by rw [get?, hfound]; rfl)
  | some entry =>
      have hprefix : (c.use k init change).entries <+:
          (k, change ((c.get? k).getD init)) :: c.entries.filter fun entry => entry.1 ≠ k :=
        List.take_prefix _ _
      have hwhole := hprefix.find?_eq_some hfound
      rw [List.find?_cons_of_neg (by simpa using Ne.symm hj), find?_filter_ne _ hj] at hwhole
      exact .inl (by rw [get?, get?, hfound, hwhole])

theorem get?_use_ne_or_trans {before : Option ν} (hj : j ≠ k)
    (h : c.get? j = before ∨ c.get? j = none) :
    (c.use k init change).get? j = before ∨ (c.use k init change).get? j = none := by
  have hother : (c.use k init change).get? j = c.get? j ∨ (c.use k init change).get? j = none :=
    get?_use_ne_or hj
  rcases hother with hsame | hgone
  · rw [hsame]
    exact h
  · exact .inr hgone

/-- What holds of every entry, and of a new one, and is kept by the change. -/
theorem forall_get?_use {P : ν → Prop} (hall : ∀ j v, c.get? j = some v → P v) (hinit : P init)
    (hchange : ∀ v, P v → P (change v)) (v : ν) (h : (c.use k init change).get? j = some v) :
    P v := by
  by_cases hj : j = k
  · subst hj
    rw [get?_use_self] at h
    obtain rfl := Option.some.inj h
    apply hchange
    cases hget : c.get? j with
    | none => exact hinit
    | some old => exact hall j old hget
  · have hother : (c.use k init change).get? j = c.get? j ∨ (c.use k init change).get? j = none :=
      get?_use_ne_or hj
    rcases hother with hsame | hgone
    · exact hall j v (hsame.symm.trans h)
    · rw [hgone] at h
      cases h

theorem mem_keys_use (hroom : c.HasRoom k) :
    j ∈ (c.use k init change).keys ↔ j = k ∨ j ∈ c.keys := by
  rw [keys, entries_use hroom, List.map_cons, List.mem_cons]
  by_cases hj : j = k
  · simp [hj]
  · simp only [hj, false_or]
    constructor
    · intro hmem
      exact (List.filter_sublist.map Prod.fst).subset hmem
    · intro hmem
      obtain ⟨entry, hentry, rfl⟩ := List.mem_map.mp hmem
      exact List.mem_map.mpr ⟨entry, List.mem_filter.mpr ⟨hentry, by simpa using hj⟩, rfl⟩

theorem mem_keys_of_get? {v : ν} (h : c.get? k = some v) : k ∈ c.keys := by
  obtain ⟨entry, hfound, -⟩ := Option.map_eq_some_iff.mp h
  have hkey : entry.1 = k := by simpa using List.find?_some hfound
  exact List.mem_map.mpr ⟨entry, List.mem_of_find?_eq_some hfound, hkey⟩

theorem contains_of_mem_keys (h : k ∈ c.keys) : c.contains k = true := by
  obtain ⟨entry, hentry, hkey⟩ := List.mem_map.mp h
  rw [contains, get?, Option.isSome_map, List.find?_isSome]
  exact ⟨entry, hentry, decide_eq_true hkey⟩

theorem touch_of_get? {v : ν} (h : c.get? k = some v) : c.touch k = c.use k v id := by
  rw [touch, h]

theorem get?_touch (c : Lru κ ν) (k j : κ) : (c.touch k).get? j = c.get? j := by
  cases hget : c.get? k with
  | none => rw [touch, hget]
  | some v =>
      rw [touch_of_get? hget]
      by_cases hj : j = k
      · subst hj
        rw [get?_use_self, hget]
        rfl
      · exact get?_use_ne (.inl (mem_keys_of_get? hget)) hj

@[simp] theorem cap_touch : (c.touch k).cap = c.cap := by
  unfold touch
  split <;> rfl

@[simp] theorem cap_pop : (c.pop k).cap = c.cap := rfl

@[simp] theorem get?_pop_self : (c.pop k).get? k = none := by
  rw [get?, Option.map_eq_none_iff, List.find?_eq_none]
  intro entry hentry
  simpa using (List.mem_filter.mp hentry).2

theorem get?_pop_ne (hj : j ≠ k) : (c.pop k).get? j = c.get? j := by
  rw [get?, get?]
  exact congrArg (Option.map Prod.snd) (find?_filter_ne c.entries hj)

/-- It makes no difference whether a key is used before it is forgotten. -/
theorem entries_pop_touch : ((c.touch k).pop k).entries = (c.pop k).entries := by
  cases hget : c.get? k with
  | none => rw [touch, hget]
  | some v =>
      have hroom : c.HasRoom k := .inl (mem_keys_of_get? hget)
      show List.filter _ (c.touch k).entries = List.filter _ c.entries
      rw [touch_of_get? hget, entries_use hroom, List.filter_cons_of_neg (by simp),
        List.filter_filter]
      simp

/-! ## How long an entry is kept -/

/-- There is an entry for `k` with the value `v`, and every entry in front of it is of one of
the keys `ahead`. -/
def Behind (c : Lru κ ν) (ahead : Finset κ) (k : κ) (v : ν) : Prop :=
  ∃ front back, c.entries = front ++ (k, v) :: back ∧ ∀ entry ∈ front, entry.1 ∈ ahead

variable {ahead : Finset κ} {v : ν}

theorem Behind.get?_eq (h : c.Behind ahead k v) : c.get? k = some v := by
  obtain ⟨front, back, hentries, -⟩ := h
  have hfront : (front.find? fun entry => entry.1 = k) = none := by
    rw [List.find?_eq_none]
    intro entry hentry
    simpa using not_mem_front hentries hentry
  rw [get?, hentries, List.find?_append, hfront]
  simp

theorem behind_use_self (c : Lru κ ν) (k : κ) (init : ν) (change : ν → ν) :
    (c.use k init change).Behind ∅ k (change ((c.get? k).getD init)) := by
  obtain ⟨n, hn⟩ := Nat.exists_eq_succ_of_ne_zero (Nat.ne_of_gt c.cap_pos)
  refine ⟨[], (c.entries.filter fun entry => entry.1 ≠ k).take n, ?_, fun _ h => nomatch h⟩
  show List.take c.cap _ = _
  rw [hn]
  rfl

/-- The entries in front that are not of `j` are fewer than `j` and the keys in front. -/
theorem length_filter_lt_card {front back : List (κ × ν)} (h : c.entries = front ++ back)
    (hahead : ∀ entry ∈ front, entry.1 ∈ ahead) (j : κ) :
    (front.filter fun entry => entry.1 ≠ j).length < (insert j ahead).card := by
  have hnodup : (j :: (front.filter fun entry => entry.1 ≠ j).map Prod.fst).Nodup := by
    apply List.nodup_cons.mpr
    constructor
    · simp
    · have hall := c.nodup
      rw [h, List.map_append] at hall
      exact (List.nodup_append.mp hall).1.sublist (List.filter_sublist.map Prod.fst)
  have hsub : (j :: (front.filter fun entry => entry.1 ≠ j).map Prod.fst).toFinset ⊆
      insert j ahead := by
    intro key hkey
    rcases List.mem_cons.mp (List.mem_toFinset.mp hkey) with rfl | hkey
    · exact Finset.mem_insert_self _ _
    · obtain ⟨entry, hentry, rfl⟩ := List.mem_map.mp hkey
      exact Finset.mem_insert_of_mem (hahead entry (List.mem_of_mem_filter hentry))
  have hcard := Finset.card_le_card hsub
  rw [List.toFinset_card_of_nodup hnodup, List.length_cons, List.length_map] at hcard
  omega

/-- Another key may be used as long as the map has room for it and those in front. -/
theorem Behind.use (h : c.Behind ahead k v) (hj : j ≠ k) (hroom : (insert j ahead).card < c.cap) :
    (c.use j init change).Behind (insert j ahead) k v := by
  obtain ⟨front, back, hentries, hahead⟩ := h
  have hshort := length_filter_lt_card hentries hahead j
  have hothers : (c.entries.filter fun entry => entry.1 ≠ j) =
      (front.filter fun entry => entry.1 ≠ j) ++
        (k, v) :: back.filter fun entry => entry.1 ≠ j := by
    rw [hentries, List.filter_append, List.filter_cons_of_pos (by simpa using Ne.symm hj)]
  obtain ⟨n, hn⟩ : ∃ n, c.cap = (front.filter fun entry => entry.1 ≠ j).length + 1 + (n + 1) :=
    ⟨c.cap - (front.filter fun entry => entry.1 ≠ j).length - 2, by omega⟩
  refine ⟨(j, change ((c.get? j).getD init)) :: front.filter fun entry => entry.1 ≠ j,
    (back.filter fun entry => entry.1 ≠ j).take n, ?_, ?_⟩
  · show List.take c.cap _ = _
    rw [hothers, ← List.cons_append, List.take_append, hn, List.length_cons,
      List.take_of_length_le (by rw [List.length_cons]; omega), Nat.add_sub_cancel_left]
    rfl
  · intro entry hentry
    rcases List.mem_cons.mp hentry with rfl | hentry
    · exact Finset.mem_insert_self _ _
    · exact Finset.mem_insert_of_mem (hahead entry (List.mem_of_mem_filter hentry))

theorem behind_touch_self (h : c.get? k = some v) : (c.touch k).Behind ∅ k v := by
  have hfront := c.behind_use_self k v id
  rw [h] at hfront
  rw [touch_of_get? h]
  exact hfront

theorem Behind.touch (h : c.Behind ahead k v) {w : ν} (hget : c.get? j = some w) (hj : j ≠ k)
    (hroom : (insert j ahead).card < c.cap) : (c.touch j).Behind (insert j ahead) k v := by
  rw [touch_of_get? hget]
  exact h.use hj hroom

theorem Behind.pop (h : c.Behind ahead k v) (hj : j ≠ k) : (c.pop j).Behind ahead k v := by
  obtain ⟨front, back, hentries, hahead⟩ := h
  refine ⟨front.filter fun entry => entry.1 ≠ j, back.filter fun entry => entry.1 ≠ j, ?_, ?_⟩
  · show List.filter _ c.entries = _
    rw [hentries, List.filter_append, List.filter_cons_of_pos (by simpa using Ne.symm hj)]
  · intro entry hentry
    exact hahead entry (List.mem_of_mem_filter hentry)

end Lru
