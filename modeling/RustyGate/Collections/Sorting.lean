/-
Sorting by a key.

A comparison goes by a key if it is the comparison of the keys in a linear order.  The sort of
a list by such a comparison is sorted (`ByKey.pairwise`), and if no two elements have the same
key it does not depend on the order in which the list was given (`ByKey.mergeSort_eq_of_perm`).
An element comes before another one in a list if the two in this order are a sublist of it.
-/
import Mathlib.Data.List.Sort
import Mathlib.Order.Defs.LinearOrder

/-- The comparison is that of the keys. -/
def ByKey {α β : Type*} [LinearOrder β] (le : α → α → Bool) (key : α → β) : Prop :=
  ∀ a b, le a b = true ↔ key a ≤ key b

namespace ByKey

variable {α β : Type*} [LinearOrder β] {le : α → α → Bool} {key : α → β} {l : List α}
  (h : ByKey le key)

include h

theorem trans (a b c : α) (hab : le a b = true) (hbc : le b c = true) :
    le a c = true := by
  rw [h] at hab hbc ⊢
  exact hab.trans hbc

theorem total (a b : α) : (le a b || le b a) = true := by
  rw [Bool.or_eq_true, h, h]
  exact le_total (key a) (key b)

theorem pairwise (l : List α) :
    (l.mergeSort le).Pairwise fun a b => key a ≤ key b := by
  have hsorted := List.pairwise_mergeSort h.trans h.total l
  exact hsorted.imp fun {a b} hab => (h a b).mp hab

theorem mergeSort_eq_of_perm {l' : List α} (hperm : l.Perm l')
    (hkeys : ∀ a ∈ l, ∀ b ∈ l, key a = key b → a = b) : l.mergeSort le = l'.mergeSort le := by
  have hsame : (l.mergeSort le).Perm (l'.mergeSort le) :=
    (List.mergeSort_perm l le).trans (hperm.trans (List.mergeSort_perm l' le).symm)
  apply List.Perm.eq_of_pairwise _ (h.pairwise l) (h.pairwise l') hsame
  intro a b ha hb hab hba
  apply hkeys a (List.mem_mergeSort.mp ha) b _ (le_antisymm hab hba)
  exact hperm.mem_iff.mpr (List.mem_mergeSort.mp hb)

theorem le_of_sublist {a b : α} (hsub : [a, b].Sublist (l.mergeSort le)) : key a ≤ key b := by
  have hpair := (h.pairwise l).sublist hsub
  exact (List.pairwise_cons.mp hpair).1 b (List.mem_singleton_self b)

/-- The smaller key comes first. -/
theorem sublist_of_lt {a b : α} (ha : a ∈ l) (hb : b ∈ l)
    (hlt : key a < key b) : [a, b].Sublist (l.mergeSort le) := by
  obtain ⟨front, back, hsplit⟩ := List.append_of_mem (List.mem_mergeSort.mpr ha)
  have hsorted := h.pairwise l
  have hmem : b ∈ l.mergeSort le := List.mem_mergeSort.mpr hb
  rw [hsplit] at hsorted hmem ⊢
  rcases List.mem_append.mp hmem with hfront | hback
  · have hle := (List.pairwise_append.mp hsorted).2.2 b hfront a List.mem_cons_self
    exact absurd hlt (not_lt_of_ge hle)
  rcases List.mem_cons.mp hback with rfl | hback
  · exact absurd hlt (lt_irrefl _)
  · have hrest : [b].Sublist back := List.singleton_sublist.mpr hback
    exact (hrest.cons_cons a).trans (List.sublist_append_right front (a :: back))

/-- The first element is one with the least key. -/
theorem exists_head {a : α} (ha : a ∈ l) :
    ∃ first, (l.mergeSort le).head? = some first ∧ first ∈ l ∧ ∀ b ∈ l, key first ≤ key b := by
  have hmemSort : a ∈ l.mergeSort le := List.mem_mergeSort.mpr ha
  obtain ⟨first, rest, hsort⟩ := List.exists_cons_of_ne_nil (List.ne_nil_of_mem hmemSort)
  have hsorted := h.pairwise l
  have hmem : ∀ b, b ∈ l ↔ b ∈ first :: rest := fun b => by rw [← hsort, List.mem_mergeSort]
  rw [hsort] at hsorted
  refine ⟨first, by rw [hsort]; rfl, (hmem first).mpr List.mem_cons_self, fun b hb => ?_⟩
  rcases List.mem_cons.mp ((hmem b).mp hb) with rfl | hrest
  · exact le_refl _
  · exact (List.pairwise_cons.mp hsorted).1 b hrest

/-- The first element is in a class, one that the keys decide, exactly if the class has an
element with a key no greater than those outside it. -/
theorem head_iff {p : α → Prop} (hp : ∀ a b, key a = key b → p a → p b) :
    (∃ first, (l.mergeSort le).head? = some first ∧ p first) ↔
      ∃ a ∈ l, p a ∧ ∀ b ∈ l, ¬ p b → key a ≤ key b := by
  constructor
  · rintro ⟨first, hhead, hfirst⟩
    have hmem : first ∈ l := List.mem_mergeSort.mp (List.mem_of_mem_head? hhead)
    obtain ⟨first', hhead', -, hleast⟩ := h.exists_head hmem
    obtain rfl := Option.some.inj (hhead.symm.trans hhead')
    exact ⟨first, hmem, hfirst, fun b hb _ => hleast b hb⟩
  · rintro ⟨a, ha, hpa, hle⟩
    obtain ⟨first, hhead, hmem, hleast⟩ := h.exists_head ha
    refine ⟨first, hhead, ?_⟩
    by_contra hfirst
    have hkey : key a = key first := le_antisymm (hle first hmem hfirst) (hleast a ha)
    exact hfirst (hp a first hkey hpa)

end ByKey

section Ranks

variable {α β : Type*} [LinearOrder β] {key : α → β} {l : List α} {i : Nat}

/-- In a sorted list, the elements up to a place are no greater than the one there. -/
theorem lt_countP_le (h : l.Pairwise fun a b => key a ≤ key b) (hi : i < l.length) :
    i < l.countP fun a => decide (key a ≤ key l[i]) := by
  have hfront : ∀ a ∈ l.take (i + 1), decide (key a ≤ key l[i]) = true := by
    intro a ha
    obtain ⟨j, hj, rfl⟩ := List.mem_take_iff_getElem.mp ha
    apply decide_eq_true
    rcases Nat.lt_or_ge j i with hlt | hge
    · exact List.pairwise_iff_getElem.mp h j i _ hi hlt
    · obtain rfl : j = i := by omega
      exact le_refl _
  have hcount := List.countP_eq_length.mpr hfront
  have hsub := (List.take_sublist (i + 1) l).countP_le (p := fun a => decide (key a ≤ key l[i]))
  rw [List.length_take] at hcount
  omega

/-- And only such elements can be less than it. -/
theorem countP_lt_le (h : l.Pairwise fun a b => key a ≤ key b) (hi : i < l.length) :
    (l.countP fun a => decide (key a < key l[i])) ≤ i := by
  have hback : ∀ a ∈ l.drop i, ¬ decide (key a < key l[i]) = true := by
    intro a ha
    obtain ⟨j, hj, rfl⟩ := List.mem_drop_iff_getElem.mp ha
    rw [decide_eq_true_eq, not_lt]
    rcases Nat.eq_zero_or_pos j with rfl | hpos
    · exact le_refl _
    · exact List.pairwise_iff_getElem.mp h i (i + j) hi _ (by omega)
  have hsplit : l.countP (fun a => decide (key a < key l[i])) =
      (l.take i).countP (fun a => decide (key a < key l[i])) +
        (l.drop i).countP (fun a => decide (key a < key l[i])) := by
    rw [← List.countP_append, List.take_append_drop]
  have hfront := List.countP_le_length (p := fun a => decide (key a < key l[i])) (l := l.take i)
  rw [hsplit, List.countP_eq_zero.mpr hback]
  rw [List.length_take] at hfront
  omega

end Ranks

/-- In a list where every element of a class comes before all others, the class is at the
front. -/
theorem filter_at_front {α : Type*} {p : α → Bool} {l : List α}
    (h : l.Pairwise fun a b => p b = true → p a = true) : l.filter p <+: l := by
  induction l with
  | nil => exact ⟨[], rfl⟩
  | cons a rest ih =>
      rw [List.pairwise_cons] at h
      by_cases ha : p a = true
      · rw [List.filter_cons_of_pos ha, List.prefix_cons_inj]
        exact ih h.2
      · have hnone : rest.filter p = [] :=
          List.filter_eq_nil_iff.mpr fun b hb hpb => ha (h.1 b hb hpb)
        rw [List.filter_cons_of_neg ha, hnone]
        exact ⟨a :: rest, rfl⟩

namespace ByKey

variable {α β : Type*} [LinearOrder β] {le : α → α → Bool} {key : α → β}

/-- If the keys of a class are less than all others, a sort puts the class to the front, and
keeps its order exactly if it was sorted before. -/
theorem filter_at_front_iff (h : ByKey le key) {p : α → Bool} {l : List α}
    (hclass : ∀ a b, p a = true → p b = false → key a < key b) :
    l.filter p <+: l.mergeSort le ↔ (l.filter p).Pairwise fun a b => key a ≤ key b := by
  constructor
  · intro hfront
    exact (h.pairwise l).sublist hfront.sublist
  · intro hsorted
    have hle : (l.filter p).Pairwise fun a b => le a b = true :=
      hsorted.imp fun {a b} hab => (h a b).mpr hab
    have hsub : (l.filter p).Sublist ((l.mergeSort le).filter p) := by
      have hsame := (List.sublist_mergeSort h.trans h.total hle List.filter_sublist).filter p
      rwa [List.filter_filter, List.filter_congr (fun a _ => Bool.and_self (p a))] at hsame
    have hlength : (l.filter p).length = ((l.mergeSort le).filter p).length :=
      ((List.mergeSort_perm l le).filter p).length_eq.symm
    rw [hsub.eq_of_length hlength]
    apply filter_at_front
    refine (h.pairwise l).imp fun {a b} hab hb => ?_
    by_contra ha
    exact not_lt_of_ge hab (hclass b a hb (Bool.eq_false_iff.mpr ha))

end ByKey
