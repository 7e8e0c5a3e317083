/-
Maps whose entries stand in the order of their keys.

The keys rise strictly, so there is one list of entries for every finite map, and going
through a map means going through that list.
-/
import Mathlib.Data.Finset.Dedup
import Mathlib.Data.Finset.Insert
import Mathlib.Data.List.Basic
import Mathlib.Data.List.Induction
import Mathlib.Order.Defs.LinearOrder

structure OrdMap (κ ν : Type) [LinearOrder κ] where
  entries : List (κ × ν)
  sorted : (entries.map Prod.fst).Pairwise (· < ·)

namespace OrdMap

variable {κ ν : Type} [LinearOrder κ]

def empty : OrdMap κ ν := ⟨[], List.Pairwise.nil⟩

def keys (m : OrdMap κ ν) : List κ := m.entries.map Prod.fst

def values (m : OrdMap κ ν) : List ν := m.entries.map Prod.snd

def get? (m : OrdMap κ ν) (k : κ) : Option ν :=
  (m.entries.find? fun entry => entry.1 = k).map Prod.snd

def contains (m : OrdMap κ ν) (k : κ) : Bool := (m.get? k).isSome

/-- Put an entry in its place, over the entry of the same key if there is one. -/
def insertEntry (k : κ) (v : ν) : List (κ × ν) → List (κ × ν)
  | [] => [(k, v)]
  | (j, w) :: rest =>
      if k < j then (k, v) :: (j, w) :: rest
      else if k = j then (k, v) :: rest
      else (j, w) :: insertEntry k v rest

theorem mem_keys_insertEntry {k j : κ} {v : ν} {l : List (κ × ν)} :
    j ∈ (insertEntry k v l).map Prod.fst ↔ j = k ∨ j ∈ l.map Prod.fst := by
  induction l with
  | nil => simp [insertEntry]
  | cons entry rest ih =>
      obtain ⟨i, w⟩ := entry
      rw [insertEntry]
      split
      · simp
      · split
        · rename_i heq
          simp [heq]
        · rw [List.map_cons, List.mem_cons, ih, List.map_cons, List.mem_cons]
          exact or_left_comm

theorem sorted_insertEntry {k : κ} {v : ν} {l : List (κ × ν)}
    (h : (l.map Prod.fst).Pairwise (· < ·)) :
    ((insertEntry k v l).map Prod.fst).Pairwise (· < ·) := by
  induction l with
  | nil => simp [insertEntry]
  | cons entry rest ih =>
      obtain ⟨j, w⟩ := entry
      obtain ⟨hhead, htail⟩ := List.pairwise_cons.mp h
      rw [insertEntry]
      split
      · rename_i hlt
        refine List.pairwise_cons.mpr ⟨fun i hi => ?_, h⟩
        rcases List.mem_cons.mp hi with rfl | hi
        · exact hlt
        · exact lt_trans hlt (hhead i hi)
      · split
        · rename_i heq
          subst heq
          exact h
        · rename_i hlt heq
          refine List.pairwise_cons.mpr ⟨fun i hi => ?_, ih htail⟩
          rcases mem_keys_insertEntry.mp hi with rfl | hi
          · exact lt_of_le_of_ne (not_lt.mp hlt) (Ne.symm heq)
          · exact hhead i hi

def map {ν' : Type} (f : ν → ν') (m : OrdMap κ ν) : OrdMap κ ν' where
  entries := m.entries.map fun entry => (entry.1, f entry.2)
  sorted := by
    rw [List.map_map]
    exact m.sorted

def insert (m : OrdMap κ ν) (k : κ) (v : ν) : OrdMap κ ν :=
  ⟨insertEntry k v m.entries, sorted_insertEntry m.sorted⟩

/-- Change the value of `k`, made with `init` if there is none. -/
def update (m : OrdMap κ ν) (k : κ) (init : ν) (change : ν → ν) : OrdMap κ ν :=
  m.insert k (change ((m.get? k).getD init))

/-- Give every one of some keys the same value. -/
def insertAll (m : OrdMap κ ν) (ks : List κ) (v : ν) : OrdMap κ ν :=
  ks.foldl (fun m k => m.insert k v) m

variable {m : OrdMap κ ν} {k j : κ} {v : ν}

theorem nodup_keys (m : OrdMap κ ν) : m.keys.Nodup := m.sorted.imp fun h => ne_of_lt h

@[simp] theorem get?_empty : (empty : OrdMap κ ν).get? k = none := rfl

@[simp] theorem keys_empty : (empty : OrdMap κ ν).keys = [] := rfl

@[simp] theorem get?_insert_self : (m.insert k v).get? k = some v := by
  unfold get? insert
  dsimp only
  induction m.entries with
  | nil => simp [insertEntry]
  | cons entry rest ih =>
      obtain ⟨i, w⟩ := entry
      rw [insertEntry]
      split
      · simp
      · split
        · simp
        · rename_i heq
          rw [List.find?_cons_of_neg (by simpa using Ne.symm heq)]
          exact ih

@[simp] theorem get?_insert_ne (h : j ≠ k) : (m.insert k v).get? j = m.get? j := by
  unfold get? insert
  dsimp only
  induction m.entries with
  | nil => simp [insertEntry, Ne.symm h]
  | cons entry rest ih =>
      obtain ⟨i, w⟩ := entry
      rw [insertEntry]
      split
      · rw [List.find?_cons_of_neg (by simpa using Ne.symm h)]
      · split
        · rename_i heq
          subst heq
          rw [List.find?_cons_of_neg (by simpa using Ne.symm h),
            List.find?_cons_of_neg (by simpa using Ne.symm h)]
        · rw [List.find?_cons, List.find?_cons]
          split
          · rfl
          · exact ih

theorem get?_insert : (m.insert k v).get? j = if j = k then some v else m.get? j := by
  by_cases h : j = k
  · rw [if_pos h, h, get?_insert_self]
  · rw [if_neg h, get?_insert_ne h]

theorem get?_insertAll {ks : List κ} :
    (m.insertAll ks v).get? j = if j ∈ ks then some v else m.get? j := by
  unfold insertAll
  induction ks generalizing m with
  | nil => simp
  | cons k rest ih =>
      rw [List.foldl_cons, ih, get?_insert]
      by_cases hrest : j ∈ rest
      · simp [hrest]
      · simp [hrest]

/-- A key stands at most once, so an entry is what looking up its key finds. -/
theorem mem_entries : (k, v) ∈ m.entries ↔ m.get? k = some v := by
  obtain ⟨entries, hsorted⟩ := m
  unfold get?
  dsimp only
  induction entries with
  | nil => simp
  | cons entry rest ih =>
      obtain ⟨i, w⟩ := entry
      obtain ⟨hhead, htail⟩ := List.pairwise_cons.mp hsorted
      by_cases hi : i = k
      · subst hi
        have hnot : (i, v) ∉ rest := by
          intro hmem
          exact lt_irrefl i (hhead i (List.mem_map.mpr ⟨(i, v), hmem, rfl⟩))
        simp [hnot, eq_comm]
      · rw [List.find?_cons_of_neg (by simpa using hi), List.mem_cons, ih htail]
        constructor
        · rintro (heq | hrest)
          · exact absurd (congrArg Prod.fst heq).symm hi
          · exact hrest
        · exact Or.inr

theorem get?_map {ν' : Type} (f : ν → ν') : (m.map f).get? k = (m.get? k).map f := by
  unfold get? map
  dsimp only
  rw [List.find?_map, Option.map_map, Option.map_map]
  rfl

/-- The entries of a function at some keys. -/
def ofFun (ks : List κ) (f : κ → Option ν) : OrdMap κ ν :=
  ks.foldl (fun m k => (f k).elim m (m.insert k)) empty

theorem get?_ofFun {ks : List κ} {f : κ → Option ν} :
    (ofFun ks f).get? k = if k ∈ ks then f k else none := by
  unfold ofFun
  induction ks using List.reverseRecOn with
  | nil => rfl
  | append_singleton ks j ih =>
      rw [List.foldl_append, List.foldl_cons, List.foldl_nil]
      by_cases hj : k = j
      · subst hj
        cases hk : f k with
        | none => simp [ih, hk]
        | some v => simp
      · cases f j with
        | none => simp [ih, hj]
        | some v => simp [ih, hj]

/-- Give every element's keys the element's value, one element after the other. -/
def build {α : Type} (keysOf : α → List κ) (valueOf : α → ν) (l : List α) : OrdMap κ ν :=
  l.foldl (fun m a => m.insertAll (keysOf a) (valueOf a)) empty

theorem build_append {α : Type} {keysOf : α → List κ} {valueOf : α → ν} (l : List α) (a : α) :
    build keysOf valueOf (l ++ [a]) =
      (build keysOf valueOf l).insertAll (keysOf a) (valueOf a) := by
  rw [build, List.foldl_append, ← build]
  rfl

/-- Where no key is given twice, it has the value of the element that gave it. -/
theorem get?_build {α : Type} {keysOf : α → List κ} {valueOf : α → ν} {l : List α}
    (h : l.Pairwise fun a b => (keysOf a).Disjoint (keysOf b)) :
    (build keysOf valueOf l).get? k = some v ↔ ∃ a ∈ l, k ∈ keysOf a ∧ valueOf a = v := by
  induction l using List.reverseRecOn with
  | nil => simp [build]
  | append_singleton l a ih =>
      obtain ⟨hinit, -, hnew⟩ := List.pairwise_append.mp h
      have hlast : ∀ b ∈ l ++ [a], k ∈ keysOf a → k ∈ keysOf b → b = a := by
        intro b hb ha hkb
        rcases List.mem_append.mp hb with hb | hb
        · exact absurd ha (hnew b hb a List.mem_cons_self hkb)
        · exact List.mem_singleton.mp hb
      rw [build_append, get?_insertAll]
      by_cases hk : k ∈ keysOf a
      · rw [if_pos hk]
        constructor
        · intro hv
          exact ⟨a, by simp, hk, Option.some.inj hv⟩
        · rintro ⟨b, hb, hkb, hv⟩
          rw [← hv, hlast b hb hk hkb]
      · rw [if_neg hk, ih hinit]
        constructor
        · rintro ⟨b, hb, hkb, hv⟩
          exact ⟨b, List.mem_append_left _ hb, hkb, hv⟩
        · rintro ⟨b, hb, hkb, hv⟩
          rcases List.mem_append.mp hb with hb | hb
          · exact ⟨b, hb, hkb, hv⟩
          · exact absurd (List.mem_singleton.mp hb ▸ hkb) hk

/-- Collect the values of the elements under their keys. -/
def groupBy {α β : Type} [DecidableEq β] (keyOf : α → κ) (valueOf : α → β) (l : List α) :
    OrdMap κ (Finset β) :=
  l.foldl (fun m a => m.update (keyOf a) ∅ (Insert.insert (valueOf a))) empty

theorem groupBy_append {α β : Type} [DecidableEq β] {keyOf : α → κ} {valueOf : α → β}
    (l : List α) (a : α) :
    groupBy keyOf valueOf (l ++ [a]) =
      (groupBy keyOf valueOf l).update (keyOf a) ∅ (Insert.insert (valueOf a)) := by
  rw [groupBy, List.foldl_append, ← groupBy]
  rfl

section Groups

variable {α β : Type} [DecidableEq β] {keyOf : α → κ} {valueOf : α → β} {l : List α}

theorem isSome_groupBy (keyOf : α → κ) (valueOf : α → β) :
    ((groupBy keyOf valueOf l).get? k).isSome = true ↔ ∃ a ∈ l, keyOf a = k := by
  induction l using List.reverseRecOn with
  | nil => simp [groupBy]
  | append_singleton l a ih =>
      rw [groupBy_append, update, get?_insert]
      by_cases hk : k = keyOf a
      · simp [hk]
      · rw [if_neg hk, ih]
        simp [Ne.symm hk]

theorem mem_groupBy {b : β} :
    b ∈ ((groupBy keyOf valueOf l).get? k).getD ∅ ↔ ∃ a ∈ l, keyOf a = k ∧ valueOf a = b := by
  induction l using List.reverseRecOn with
  | nil => simp [groupBy]
  | append_singleton l a ih =>
      rw [groupBy_append, update, get?_insert]
      by_cases hk : k = keyOf a
      · subst hk
        rw [if_pos rfl, Option.getD_some, Finset.mem_insert, ih]
        simp only [List.mem_append, List.mem_singleton, or_and_right, exists_or, exists_eq_left,
          true_and]
        rw [or_comm, eq_comm]
      · rw [if_neg hk, ih]
        simp [Ne.symm hk]

/-- A key has an entry if an element has it, and the entry holds the values of these
elements. -/
theorem get?_groupBy {s : Finset β} :
    (groupBy keyOf valueOf l).get? k = some s ↔
      (∃ a ∈ l, keyOf a = k) ∧ ∀ b, b ∈ s ↔ ∃ a ∈ l, keyOf a = k ∧ valueOf a = b := by
  rw [← isSome_groupBy keyOf valueOf, Option.isSome_iff_exists]
  constructor
  · intro h
    refine ⟨⟨s, h⟩, fun b => ?_⟩
    rw [← mem_groupBy, h, Option.getD_some]
  · rintro ⟨⟨t, ht⟩, hs⟩
    rw [ht]
    congr 1
    ext b
    rw [hs, ← mem_groupBy, ht, Option.getD_some]

end Groups

theorem mem_keys : k ∈ m.keys ↔ ∃ v, m.get? k = some v := by
  constructor
  · intro h
    obtain ⟨⟨i, v⟩, hmem, rfl⟩ := List.mem_map.mp h
    exact ⟨v, mem_entries.mp hmem⟩
  · rintro ⟨v, hv⟩
    exact List.mem_map.mpr ⟨(k, v), mem_entries.mpr hv, rfl⟩

theorem contains_iff : m.contains k = true ↔ k ∈ m.keys := by
  rw [contains, Option.isSome_iff_exists, mem_keys]

end OrdMap
