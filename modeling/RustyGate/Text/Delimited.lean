/-
Lists cut at a delimiter.

`cut d` finds the first occurrence of `d`, and `pieces d` cuts at every occurrence, from
the left, and keeps what stands behind the last one as the rest.  The law a reader that
works piece by piece rests on is `pieces_append`: cutting what is there, and going on with
the rest when more arrives, gives the pieces of the whole.
-/
import Mathlib.Data.List.Basic

namespace Delimited

variable {α : Type} [DecidableEq α] (d : List α)

/-- What stands before the first occurrence of `d`, and what stands behind it. -/
def cut : List α → Option (List α × List α)
  | [] => if d.isEmpty then some ([], []) else none
  | x :: xs =>
      if d.isPrefixOf (x :: xs) then some ([], (x :: xs).drop d.length)
      else (cut xs).map fun found => (x :: found.1, found.2)

variable {d} {xs before after : List α}

/-- What is found, with the delimiter between, is the list. -/
theorem cut_eq_append (h : cut d xs = some (before, after)) :
    xs = before ++ d ++ after := by
  induction xs generalizing before after with
  | nil =>
      by_cases hd : d.isEmpty = true
      · rw [cut, if_pos hd] at h
        cases h
        simp [List.isEmpty_iff.mp hd]
      · rw [cut, if_neg hd] at h
        cases h
  | cons x xs ih =>
      rw [cut] at h
      by_cases hd : d.isPrefixOf (x :: xs) = true
      · rw [if_pos hd] at h
        cases h
        obtain ⟨rest, hrest⟩ := List.isPrefixOf_iff_prefix.mp hd
        rw [← hrest, List.drop_left, List.nil_append]
      · rw [if_neg hd] at h
        obtain ⟨⟨before', after'⟩, hfound, hpair⟩ := Option.map_eq_some_iff.mp h
        cases hpair
        rw [ih hfound]
        simp

theorem cut_length (h : cut d xs = some (before, after)) :
    xs.length = before.length + d.length + after.length := by
  rw [cut_eq_append h]
  simp only [List.length_append]

theorem length_lt_of_cut (hd : d ≠ []) (h : cut d xs = some (before, after)) :
    after.length < xs.length := by
  have hlength := cut_length h
  have hpos : 0 < d.length := List.length_pos_of_ne_nil hd
  omega

/-- A single element is found where it first stands. -/
theorem cut_singleton {x : α} {before : List α} (h : x ∉ before) (after : List α) :
    cut [x] (before ++ x :: after) = some (before, after) := by
  induction before with
  | nil => simp [cut]
  | cons y before ih =>
      have hy : y ≠ x := fun he => h (he ▸ List.mem_cons_self)
      have hrest := ih fun hmem => h (List.mem_cons_of_mem y hmem)
      simp [cut, hrest, hy.symm]

/-- An occurrence stays the first one when the list grows. -/
theorem cut_append (h : cut d xs = some (before, after)) (ys : List α) :
    cut d (xs ++ ys) = some (before, after ++ ys) := by
  induction xs generalizing before after with
  | nil =>
      by_cases hd : d.isEmpty = true
      · rw [cut, if_pos hd] at h
        cases h
        obtain rfl := List.isEmpty_iff.mp hd
        cases ys <;> simp [cut]
      · rw [cut, if_neg hd] at h
        cases h
  | cons x xs ih =>
      rw [cut] at h
      rw [List.cons_append, cut]
      by_cases hd : d.isPrefixOf (x :: xs) = true
      · rw [if_pos hd] at h
        cases h
        have hprefix := List.isPrefixOf_iff_prefix.mp hd
        have hlonger : d <+: x :: (xs ++ ys) := hprefix.trans (List.prefix_append (x :: xs) ys)
        rw [if_pos (List.isPrefixOf_iff_prefix.mpr hlonger), ← List.cons_append,
          List.drop_append_of_le_length hprefix.length_le]
      · rw [if_neg hd] at h
        obtain ⟨⟨before', after'⟩, hfound, hpair⟩ := Option.map_eq_some_iff.mp h
        cases hpair
        -- The delimiter fits into `xs`, so it cannot start at `x` only because of `ys`.
        have hnot : ¬ d.isPrefixOf (x :: (xs ++ ys)) = true := by
          intro hstart
          have hlength := cut_length hfound
          have hfits : d.length ≤ (x :: xs).length := by
            rw [List.length_cons]
            omega
          exact hd (List.isPrefixOf_iff_prefix.mpr (List.prefix_of_prefix_length_le
            (List.isPrefixOf_iff_prefix.mp hstart) (List.prefix_append (x :: xs) ys) hfits))
        rw [if_neg hnot, ih hfound]
        rfl

/-- The delimiter is nowhere in a list in which it is not found. -/
theorem not_infix_of_cut_none {xs : List α} (h : cut d xs = none) : ¬ d <:+: xs := by
  induction xs with
  | nil =>
      intro hinfix
      obtain rfl := List.eq_nil_of_infix_nil hinfix
      cases h
  | cons x xs ih =>
      rw [cut] at h
      by_cases hd : d.isPrefixOf (x :: xs) = true
      · rw [if_pos hd] at h
        cases h
      · rw [if_neg hd, Option.map_eq_none_iff] at h
        rw [List.infix_cons_iff]
        intro hinfix
        rcases hinfix with hstart | hlater
        · exact hd (List.isPrefixOf_iff_prefix.mpr hstart)
        · exact ih h hlater

section Pieces

/-- The pieces before each occurrence of `d`, and the rest. -/
def pieces (d : List α) (hd : d ≠ []) (xs : List α) : List (List α) × List α :=
  match _h : cut d xs with
  | none => ([], xs)
  | some (before, after) => (before :: (pieces d hd after).1, (pieces d hd after).2)
termination_by xs.length
decreasing_by all_goals exact length_lt_of_cut hd _h

variable (hd : d ≠ [])

theorem pieces_of_cut_none {xs : List α} (h : cut d xs = none) : pieces d hd xs = ([], xs) := by
  rw [pieces]
  split
  · rfl
  · rename_i hsome
    rw [h] at hsome
    cases hsome

theorem pieces_of_cut_some (h : cut d xs = some (before, after)) :
    pieces d hd xs = (before :: (pieces d hd after).1, (pieces d hd after).2) := by
  rw [pieces]
  split
  · rename_i hnone
    rw [h] at hnone
    cases hnone
  · rename_i hsome
    rw [h] at hsome
    cases hsome
    rfl

/-- There is nothing to cut in the rest. -/
theorem cut_rest (xs : List α) : cut d (pieces d hd xs).2 = none := by
  cases h : cut d xs with
  | none =>
      rw [pieces_of_cut_none hd h]
      exact h
  | some found =>
      have hshorter := length_lt_of_cut hd h
      rw [pieces_of_cut_some hd h]
      exact cut_rest found.2
termination_by xs.length

/-- More that arrives is cut together with the rest. -/
theorem pieces_append (xs ys : List α) :
    pieces d hd (xs ++ ys) =
      ((pieces d hd xs).1 ++ (pieces d hd ((pieces d hd xs).2 ++ ys)).1,
        (pieces d hd ((pieces d hd xs).2 ++ ys)).2) := by
  cases h : cut d xs with
  | none =>
      rw [pieces_of_cut_none hd h]
      rfl
  | some found =>
      obtain ⟨before, after⟩ := found
      have hshorter := length_lt_of_cut hd h
      rw [pieces_of_cut_some hd (cut_append h ys), pieces_of_cut_some hd h,
        pieces_append after ys]
      rfl
termination_by xs.length

end Pieces

example : pieces ['|'] (by decide) ['a', '|', '|', 'b'] = ([['a'], []], ['b']) := by
  decide +kernel

end Delimited
