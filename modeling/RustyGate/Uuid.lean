/-
Identifiers as the `uuid` crate writes them.
-/
import Mathlib.Data.BitVec
import RustyGate.Text.Str

namespace RustyGate

abbrev Uuid := BitVec 128

/-- `Uuid::simple`. -/
def uuidSimple (uuid : Uuid) : List Char := Text.hex 32 uuid.toNat

/-- The digits with hyphens between their groups. -/
def hyphenated (digits : List Char) : List Char :=
  digits.take 8 ++ '-' :: ((digits.drop 8).take 4 ++ '-' :: ((digits.drop 12).take 4 ++
    '-' :: ((digits.drop 16).take 4 ++ '-' :: digits.drop 20)))

/-- `Uuid::to_string`. -/
def uuidText (uuid : Uuid) : String := String.ofList (hyphenated (uuidSimple uuid))

theorem uuidSimple_injective : Function.Injective uuidSimple := by
  intro left right h
  have hbound : ∀ uuid : Uuid, uuid.toNat < 16 ^ 32 := fun uuid => uuid.isLt
  exact BitVec.eq_of_toNat_eq (Text.hex_inj (hbound left) (hbound right) h)

/-- Without the hyphens the digits are back. -/
theorem filter_hyphenated {digits : List Char} (h : '-' ∉ digits) :
    (hyphenated digits).filter (· ≠ '-') = digits := by
  have hkeep : ∀ part : List Char, part ⊆ digits → part.filter (· ≠ '-') = part := by
    intro part hsub
    refine List.filter_eq_self.mpr fun c hc => decide_eq_true fun he => ?_
    exact h (hsub (he ▸ hc))
  have htake : ∀ n m, (digits.drop n).take m ⊆ digits := fun n m =>
    List.Subset.trans (List.take_subset _ _) (List.drop_subset _ _)
  have hgroups : digits.take 8 ++ ((digits.drop 8).take 4 ++ ((digits.drop 12).take 4 ++
      ((digits.drop 16).take 4 ++ digits.drop 20))) = digits := by
    have hstep : ∀ n m, (digits.drop n).take m ++ digits.drop (n + m) = digits.drop n := by
      intro n m
      rw [← List.drop_drop, List.take_append_drop]
    rw [hstep 16 4, hstep 12 4, hstep 8 4, List.take_append_drop]
  have hcut : ∀ part rest : List Char, part ⊆ digits →
      (part ++ '-' :: rest).filter (· ≠ '-') = part ++ rest.filter (· ≠ '-') := by
    intro part rest hsub
    rw [List.filter_append, hkeep part hsub, List.filter_cons_of_neg (by decide)]
  unfold hyphenated
  rw [hcut _ _ (List.take_subset _ _), hcut _ _ (htake 8 4), hcut _ _ (htake 12 4),
    hcut _ _ (htake 16 4), hkeep _ (List.drop_subset _ _), hgroups]

theorem uuidText_injective : Function.Injective uuidText := by
  intro left right h
  have hplain (uuid : Uuid) : '-' ∉ uuidSimple uuid := Text.not_mem_hex (by decide) 32 _
  refine uuidSimple_injective ?_
  rw [← filter_hyphenated (hplain left), ← filter_hyphenated (hplain right),
    String.ofList_injective h]

end RustyGate
