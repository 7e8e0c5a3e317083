/-
Maps from keys to counts.

A tally is a finite map that is raised and lowered key by key.  A key whose count
falls to zero leaves the map, so a tally in use keeps no zero entry (`NoZero`), and
such a tally is empty once every count is zero (`NoZero.eq_empty`).
-/
import Mathlib.Algebra.Ring.Nat
import Mathlib.Data.List.AList

abbrev Tally (κ : Type) := AList fun _ : κ => Nat

namespace Tally

variable {κ : Type} [DecidableEq κ]

/-- The count of `k`, zero when `k` has no entry. -/
def count (m : Tally κ) (k : κ) : Nat := (m.lookup k).getD 0

def raise (m : Tally κ) (k : κ) (n : Nat) : Tally κ := m.insert k (m.count k + n)

/-- Lower an existing entry, stopping at zero, and remove it when it gets there. -/
def lower (m : Tally κ) (k : κ) (n : Nat) : Tally κ :=
  match m.lookup k with
  | none => m
  | some v => if v - n = 0 then m.erase k else m.insert k (v - n)

def NoZero (m : Tally κ) : Prop := ∀ k, m.lookup k ≠ some 0

@[simp] theorem count_empty (k : κ) : (∅ : Tally κ).count k = 0 := rfl

@[simp] theorem count_raise_self (m : Tally κ) (k : κ) (n : Nat) :
    (m.raise k n).count k = m.count k + n := by
  simp only [raise, count, AList.lookup_insert, Option.getD_some]

@[simp] theorem count_raise_ne {m : Tally κ} {k j : κ} (h : j ≠ k) (n : Nat) :
    (m.raise k n).count j = m.count j := by
  simp only [raise, count, AList.lookup_insert_ne h]

theorem count_raise (m : Tally κ) (k j : κ) (n : Nat) :
    (m.raise k n).count j = m.count j + if k = j then n else 0 := by
  by_cases hj : k = j
  · subst hj
    rw [count_raise_self, if_pos rfl]
  · rw [count_raise_ne (Ne.symm hj), if_neg hj, Nat.add_zero]

@[simp] theorem count_lower_self (m : Tally κ) (k : κ) (n : Nat) :
    (m.lower k n).count k = m.count k - n := by
  unfold lower
  cases hk : m.lookup k with
  | none => simp [count, hk]
  | some v =>
      by_cases hv : v - n = 0
      · simp [count, hk, hv]
      · simp [count, hk, hv]

@[simp] theorem count_lower_ne {m : Tally κ} {k j : κ} (h : j ≠ k) (n : Nat) :
    (m.lower k n).count j = m.count j := by
  unfold lower
  cases hk : m.lookup k with
  | none => rfl
  | some v =>
      by_cases hv : v - n = 0
      · simp only [hv, if_true, count, AList.lookup_erase_ne h]
      · simp only [hv, if_false, count, AList.lookup_insert_ne h]

theorem noZero_empty : (∅ : Tally κ).NoZero := by
  intro k
  simp

theorem NoZero.raise {m : Tally κ} (h : m.NoZero) (k : κ) {n : Nat} (hn : 0 < n) :
    (m.raise k n).NoZero := by
  intro j
  by_cases hj : j = k
  · subst hj
    simp only [Tally.raise, AList.lookup_insert, ne_eq, Option.some.injEq]
    omega
  · simpa only [Tally.raise, AList.lookup_insert_ne hj] using h j

theorem NoZero.lower {m : Tally κ} (h : m.NoZero) (k : κ) (n : Nat) :
    (m.lower k n).NoZero := by
  unfold Tally.lower
  cases hk : m.lookup k with
  | none => exact h
  | some v =>
      intro j
      by_cases hv : v - n = 0
      · by_cases hj : j = k
        · subst hj
          simp [hv]
        · simpa only [hv, if_true, AList.lookup_erase_ne hj] using h j
      · by_cases hj : j = k
        · subst hj
          simp [hv]
        · simpa only [hv, if_false, AList.lookup_insert_ne hj] using h j

/-- Without zero entries, an entry is a positive count. -/
theorem NoZero.lookup_isSome {m : Tally κ} (h : m.NoZero) (k : κ) :
    (m.lookup k).isSome = true ↔ 0 < m.count k := by
  cases hk : m.lookup k with
  | none => simp [count, hk]
  | some v =>
      have hv : v ≠ 0 := fun e => h k (by rw [hk, e])
      simp [count, hk]
      omega

theorem NoZero.eq_empty {m : Tally κ} (h : m.NoZero) (hz : ∀ k, m.count k = 0) : m = ∅ := by
  have hkeys : m.keys = [] := by
    refine List.eq_nil_iff_forall_not_mem.mpr fun k hk => ?_
    have hsome : (m.lookup k).isSome = true := AList.lookup_isSome.mpr hk
    have := (h.lookup_isSome k).mp hsome
    have := hz k
    omega
  refine AList.ext ?_
  simpa [AList.keys, List.keys] using hkeys

/-- The sum of all counts. -/
def total (m : Tally κ) : Nat := (m.entries.map Sigma.snd).sum

/-- The sum of the counts of some of the keys. -/
def totalOf (m : Tally κ) (f : κ → Bool) : Nat :=
  (m.entries.map fun entry => if f entry.1 then entry.2 else 0).sum

theorem sum_kerase (f : κ → Bool) (k : κ) (entries : List (Sigma fun _ : κ => Nat)) :
    ((entries.kerase k).map fun entry => if f entry.1 then entry.2 else 0).sum +
        (if f k then (entries.dlookup k).getD 0 else 0) =
      (entries.map fun entry => if f entry.1 then entry.2 else 0).sum := by
  induction entries with
  | nil => simp
  | cons entry rest ih =>
      by_cases hk : k = entry.1
      · subst hk
        rw [List.kerase_cons_eq rfl, List.dlookup_cons_eq, List.map_cons, List.sum_cons,
          Option.getD_some, Nat.add_comm]
      · rw [List.kerase_cons_ne hk, List.dlookup_cons_ne _ _ hk, List.map_cons, List.map_cons,
          List.sum_cons, List.sum_cons, ← ih, Nat.add_assoc]

theorem totalOf_raise (m : Tally κ) (f : κ → Bool) (k : κ) (n : Nat) :
    (m.raise k n).totalOf f = m.totalOf f + if f k then n else 0 := by
  have hsum := sum_kerase f k m.entries
  rw [totalOf, raise, AList.entries_insert, List.map_cons, List.sum_cons]
  show (if f k then (m.entries.dlookup k).getD 0 + n else 0) + _ = _
  rw [totalOf, ← hsum]
  cases f k
  · simp
  · simp only [if_true]
    omega

@[simp] theorem total_raise (m : Tally κ) (k : κ) (n : Nat) :
    (m.raise k n).total = m.total + n := by
  have hall : ∀ m : Tally κ, m.total = m.totalOf fun _ => true := by
    intro m
    simp only [total, totalOf, if_true]
  rw [hall, totalOf_raise, hall, if_pos rfl]

/-- Raised once for each of a list of keys, a tally has grown by their number. -/
theorem total_foldl_raise (keys : List κ) (m : Tally κ) :
    (keys.foldl (fun t key => t.raise key 1) m).total = m.total + keys.length := by
  induction keys generalizing m with
  | nil => rfl
  | cons key rest ih =>
      rw [List.foldl_cons, ih, total_raise, List.length_cons]
      omega

end Tally
