/-
Unsigned words of 64 bits.

A saturating operation gives the greatest word where the result has no word.  A checked one
gives none there, as a program compiled with overflow checks would stop.
-/
import Mathlib.Algebra.Order.Ring.Nat

namespace Word

/-- The greatest word, as a number. -/
def greatest : Nat := 2 ^ 64 - 1

theorem toNat_le_greatest (a : UInt64) : a.toNat ≤ greatest := by
  have h := a.toNat_lt
  unfold greatest
  omega

theorem toNat_min (a b : UInt64) : (min a b).toNat = min a.toNat b.toNat := by
  show (if a ≤ b then a else b).toNat = min a.toNat b.toNat
  rw [apply_ite UInt64.toNat, Nat.min_def]
  exact if_congr UInt64.le_iff_toNat_le rfl rfl

theorem toNat_max (a b : UInt64) : (max a b).toNat = max a.toNat b.toNat := by
  show (if a ≤ b then b else a).toNat = max a.toNat b.toNat
  rw [apply_ite UInt64.toNat, Nat.max_def]
  exact if_congr UInt64.le_iff_toNat_le rfl rfl

/-! ## Saturating operations -/

/-- The word of a number, or the greatest one. -/
def saturate (n : Nat) : UInt64 := UInt64.ofNat (min n greatest)

def saturatingAdd (a b : UInt64) : UInt64 := saturate (a.toNat + b.toNat)

def saturatingMul (a b : UInt64) : UInt64 := saturate (a.toNat * b.toNat)

def saturatingPow (a : UInt64) (n : Nat) : UInt64 := saturate (a.toNat ^ n)

def saturatingSub (a b : UInt64) : UInt64 := saturate (a.toNat - b.toNat)

theorem toNat_saturate (n : Nat) : (saturate n).toNat = min n greatest := by
  unfold saturate
  apply UInt64.toNat_ofNat_of_lt'
  have h : min n greatest ≤ greatest := Nat.min_le_right n greatest
  unfold greatest at h ⊢
  exact Nat.lt_of_le_of_lt h (by decide)

theorem toNat_saturatingAdd (a b : UInt64) :
    (saturatingAdd a b).toNat = min (a.toNat + b.toNat) greatest := toNat_saturate _

theorem toNat_saturatingMul (a b : UInt64) :
    (saturatingMul a b).toNat = min (a.toNat * b.toNat) greatest := toNat_saturate _

/-- A difference of words is a word. -/
theorem toNat_saturatingSub (a b : UInt64) : (saturatingSub a b).toNat = a.toNat - b.toNat := by
  have ha := toNat_le_greatest a
  unfold saturatingSub
  rw [toNat_saturate, Nat.min_eq_left (by omega)]

theorem le_saturatingAdd_left (a b : UInt64) : a ≤ saturatingAdd a b := by
  rw [UInt64.le_iff_toNat_le, toNat_saturatingAdd]
  exact Nat.le_min_of_le_of_le (Nat.le_add_right _ _) (toNat_le_greatest a)

/-- Saturating early makes no difference to a saturated product. -/
theorem min_mul_min (a n m : Nat) : min (a * min n m) m = min (a * n) m := by
  rcases Nat.eq_zero_or_pos a with rfl | ha
  · simp
  rcases Nat.le_total n m with h | h
  · rw [Nat.min_eq_left h]
  · have hm : m ≤ a * m := Nat.le_mul_of_pos_left m ha
    have hn : a * m ≤ a * n := Nat.mul_le_mul_left a h
    rw [Nat.min_eq_right h, Nat.min_eq_right hm, Nat.min_eq_right (hm.trans hn)]

theorem toNat_saturatingMul_pow (a b : UInt64) (n : Nat) :
    (saturatingMul a (saturatingPow b n)).toNat = min (a.toNat * b.toNat ^ n) greatest := by
  unfold saturatingMul saturatingPow
  rw [toNat_saturate, toNat_saturate, min_mul_min]

/-- A sum that saturates at each step is the saturated sum. -/
theorem toNat_foldl_saturatingAdd {α : Type*} (f : α → UInt64) (l : List α) (start : UInt64) :
    (l.foldl (fun acc x => saturatingAdd acc (f x)) start).toNat =
      min (start.toNat + (l.map fun x => (f x).toNat).sum) greatest := by
  induction l generalizing start with
  | nil => exact (Nat.min_eq_left (toNat_le_greatest start)).symm
  | cons x l ih =>
    rw [List.foldl_cons, ih, toNat_saturatingAdd, List.map_cons, List.sum_cons]
    omega

/-! ## Checked operations -/

def checkedAdd (a b : UInt64) : Option UInt64 :=
  if a.toNat + b.toNat ≤ greatest then some (a + b) else none

def checkedMul (a b : UInt64) : Option UInt64 :=
  if a.toNat * b.toNat ≤ greatest then some (a * b) else none

/-- The remainder, unless the divisor is zero. -/
def checkedRem (a b : UInt64) : Option UInt64 :=
  if b = 0 then none else some (a % b)

variable {a b : UInt64}

theorem checkedAdd_of_le (h : a.toNat + b.toNat ≤ greatest) :
    ∃ c, checkedAdd a b = some c ∧ c.toNat = a.toNat + b.toNat := by
  refine ⟨a + b, if_pos h, ?_⟩
  rw [UInt64.toNat_add]
  unfold greatest at h
  omega

theorem checkedMul_of_le (h : a.toNat * b.toNat ≤ greatest) :
    ∃ c, checkedMul a b = some c ∧ c.toNat = a.toNat * b.toNat := by
  refine ⟨a * b, if_pos h, ?_⟩
  rw [UInt64.toNat_mul]
  unfold greatest at h
  omega

theorem checkedRem_of_pos (h : 0 < b.toNat) :
    ∃ c, checkedRem a b = some c ∧ c.toNat = a.toNat % b.toNat := by
  have hb : b ≠ 0 := by
    rintro rfl
    exact absurd h (by decide)
  exact ⟨a % b, if_neg hb, UInt64.toNat_mod a b⟩

/-! ## Signed reading -/

/-- The bits of a word read as a signed number. -/
theorem toInt_toInt64 (a : UInt64) :
    a.toInt64.toInt = if a.toNat < 2 ^ 63 then (a.toNat : Int) else (a.toNat : Int) - 2 ^ 64 := by
  show a.toBitVec.toInt = _
  rw [BitVec.toInt_eq_toNat_cond]
  show (if 2 * a.toNat < 2 ^ 64 then (a.toNat : Int) else (a.toNat : Int) - (2 ^ 64 : Nat)) = _
  by_cases h : a.toNat < 2 ^ 63
  · rw [if_pos h, if_pos (by omega)]
  · rw [if_neg h, if_neg (by omega)]
    rfl

/-! ## Signed columns

SQLite's columns are signed.  A `u64` is written and read with `as`, which keeps the bits, and
is `UInt64.toInt64` and `Int64.toUInt64`. -/

/-- `i64::from` of a `u32`. -/
def i64OfU32 (value : UInt32) : Int64 := value.toUInt64.toInt64

/-- `as u32` of an `i64`. -/
def i64AsU32 (value : Int64) : UInt32 := value.toUInt64.toUInt32

/-- A flag is written as one or zero. -/
def i64OfBool (flag : Bool) : Int64 := if flag then 1 else 0

theorem toUInt64_i64OfU32 (value : UInt32) : (i64OfU32 value).toUInt64 = value.toUInt64 :=
  UInt64.toUInt64_toInt64 value.toUInt64

theorem i64AsU32_i64OfU32 (value : UInt32) : i64AsU32 (i64OfU32 value) = value := by
  show (i64OfU32 value).toUInt64.toUInt32 = value
  rw [toUInt64_i64OfU32, UInt32.toUInt32_toUInt64]

theorem i64OfBool_ne_zero (flag : Bool) : (i64OfBool flag != 0) = flag := by
  cases flag <;> decide

theorem i64OfBool_eq_one (flag : Bool) : (i64OfBool flag == 1) = flag := by
  cases flag <;> decide

end Word
