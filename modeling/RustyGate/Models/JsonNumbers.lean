/-
Whole numbers as they are written, and read back.
-/
import RustyGate.Models.Decoding
import RustyGate.Models.JsonText

namespace Json

theorem ofDigits_eq (digits : List Char) : ofDigits digits = Nat.ofDigitChars 10 digits 0 := by
  rw [Nat.ofDigitChars_eq_foldl]
  unfold ofDigits
  congr 1
  funext n digit
  rw [Nat.mul_comm]
  rfl

/-- The digits of a number, of which the first is zero for no number but zero. -/
theorem toDigits_head (n : Nat) : Nat.toDigits 10 n = ['0'] ∨
    ∃ c rest, Nat.toDigits 10 n = c :: rest ∧ c.isDigit = true ∧ c ≠ '0' := by
  induction n using Nat.strongRecOn with
  | ind n ih =>
      by_cases hlt : n < 10
      · rw [Nat.toDigits_of_lt_base hlt]
        have hall : ∀ i : Fin 10, [i.val.digitChar] = ['0'] ∨
            ∃ c rest, [i.val.digitChar] = c :: rest ∧ c.isDigit = true ∧ c ≠ '0' := by
          intro i
          by_cases hzero : i.val = 0
          · exact Or.inl (by rw [hzero]; rfl)
          · refine Or.inr ⟨_, _, rfl, ?_⟩
            revert i
            decide
        exact hall ⟨n, hlt⟩
      · have hdigits : Nat.toDigits 10 n = Nat.toDigits 10 (n / 10) ++ [(n % 10).digitChar] :=
          Nat.toDigits_of_base_le (by decide) (by omega)
        rw [hdigits]
        rcases ih (n / 10) (by omega) with hzero | ⟨c, rest, heq, hc⟩
        · have hn : n / 10 = 0 := by
            have := Nat.ofDigitChars_ten_toDigits (n := n / 10)
            rw [hzero] at this
            exact this.symm
          omega
        · exact Or.inr ⟨c, rest ++ [(n % 10).digitChar], by rw [heq]; rfl, hc⟩

/-! ## The text is a number -/

theorem readNumber_integer {digits : List Char} (h : ∀ c ∈ digits, c.isDigit = true) :
    readNumber .integer digits = some (digits, []) := by
  induction digits with
  | nil => rfl
  | cons c digits ih =>
      obtain ⟨hc, hdigits⟩ := List.forall_mem_cons.mp h
      simp [readNumber, NumberState.step, hc, ih hdigits]

/-- Digits without a leading zero, behind a minus sign or not. -/
theorem readNumber_toDigits {s : NumberState} (hs : s = .start ∨ s = .minus) (n : Nat) :
    readNumber s (Nat.toDigits 10 n) = some (Nat.toDigits 10 n, []) := by
  rcases toDigits_head n with hzero | ⟨c, rest, heq, hdigit, hne⟩
  · rw [hzero]
    rcases hs with rfl | rfl <;> rfl
  · have hrest : ∀ d ∈ rest, d.isDigit = true := fun d hd =>
      Nat.isDigit_of_mem_toDigits (b := 10) (n := n) (by decide) (by decide)
        (by rw [heq]; exact List.mem_cons_of_mem c hd)
    have hminus : c ≠ '-' := ne_of_isDigit hdigit (by decide)
    rw [heq]
    rcases hs with rfl | rfl <;>
      simp [readNumber, NumberState.step, hminus, hne, hdigit, readNumber_integer hrest]

theorem toList_toString_nat (n : Nat) : (toString n).toList = Nat.toDigits 10 n := by
  rw [Nat.toString_eq_ofList_toDigits, String.toList_ofList]

theorem isNumber_nat (n : Nat) : IsNumber (toString n).toList := by
  rw [toList_toString_nat]
  exact readNumber_toDigits (Or.inl rfl) n

theorem toList_toString_negSucc (n : Nat) :
    (toString (Int.negSucc n)).toList = '-' :: Nat.toDigits 10 (n + 1) := by
  have htext : toString (Int.negSucc n) = "-" ++ toString (n + 1) := rfl
  rw [htext, String.toList_append, toList_toString_nat]
  rfl

theorem isNumber_int (n : Int) : IsNumber (toString n).toList := by
  cases n with
  | ofNat n => exact isNumber_nat n
  | negSucc n =>
      rw [toList_toString_negSucc]
      have hread := readNumber_toDigits (Or.inr rfl : NumberState.minus = .start ∨ _) (n + 1)
      simp [IsNumber, readNumber, NumberState.step, hread]

@[simp] theorem readable_nat {depth : Nat} (n : Nat) : Readable depth (number n.repr) :=
  readable_number (isNumber_nat n)

@[simp] theorem readable_int {depth : Nat} (n : Int) : Readable depth (number n.repr) :=
  readable_number (isNumber_int n)

/-! ## Reading it back -/

theorem ofDigits_toDigits (n : Nat) : ofDigits (Nat.toDigits 10 n) = n := by
  rw [ofDigits_eq, Nat.ofDigitChars_ten_toDigits]

theorem all_isDigit_toDigits (n : Nat) : (Nat.toDigits 10 n).all Char.isDigit = true :=
  List.all_eq_true.mpr fun _ hc => Nat.isDigit_of_mem_toDigits (by decide) (by decide) hc

theorem asU32_toString (n : UInt32) : asU32 (number (toString n.toNat)) = some n := by
  have hlt : n.toNat < 2 ^ 32 := n.toNat_lt
  unfold asU32
  simp only [toList_toString_nat, ofDigits_toDigits, all_isDigit_toDigits, Nat.toDigits_ne_nil,
    ne_eq, not_false_eq_true, true_and, hlt, if_true, Option.some.injEq]
  exact UInt32.ofNat_toNat

/-- A number that fits into an `i64`. -/
def IsI64 (n : Int) : Prop := -2 ^ 63 ≤ n ∧ n < 2 ^ 63

instance (n : Int) : Decidable (IsI64 n) :=
  inferInstanceAs (Decidable (-2 ^ 63 ≤ n ∧ n < 2 ^ 63))

theorem asI64_toString {n : Int} (h : IsI64 n) : asI64 (number (toString n)) = some n := by
  obtain ⟨hlow, hhigh⟩ := h
  cases n with
  | ofNat n =>
      have htext : (toString (Int.ofNat n)).toList = Nat.toDigits 10 n := toList_toString_nat n
      have hhead : (Nat.toDigits 10 n).head? ≠ some '-' := by
        rcases toDigits_head n with hzero | ⟨c, rest, heq, hdigit, -⟩
        · rw [hzero]
          decide
        · rw [heq]
          simpa using ne_of_isDigit hdigit (by decide)
      have hlt : n < 2 ^ 63 := by
        have : (n : Int) < 2 ^ 63 := hhigh
        omega
      unfold asI64
      simp only [htext, if_neg hhead, ofDigits_toDigits, all_isDigit_toDigits,
        Nat.toDigits_ne_nil, ne_eq, not_false_eq_true, and_self, hlt, if_true]
      rfl
  | negSucc n =>
      have hle : n + 1 ≤ 2 ^ 63 := by omega
      unfold asI64
      simp only [toList_toString_negSucc, List.head?_cons, if_true, List.tail_cons,
        ofDigits_toDigits, all_isDigit_toDigits, Nat.toDigits_ne_nil, ne_eq, not_false_eq_true,
        and_self, Nat.zero_lt_succ, hle, List.ne_cons_self, if_false]
      rfl

end Json
