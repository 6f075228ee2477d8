import DevicePanel.Number.Decimal
import Mathlib.Data.List.Basic

/-!
# The digits of a natural number

The digits that a number is written with are read back as the number, and only the number zero
is written with a zero in front.
-/

namespace DevicePanel.Number

theorem isDigit_of_mem_digits {n : Nat} {c : Char} (member : c ∈ Nat.toDigits 10 n) :
    c.isDigit = true :=
  Nat.isDigit_of_mem_toDigits (by decide) (by decide) member

theorem digitValue_of_isDigit {c : Char} (isDigit : c.isDigit = true) :
    digitValue c = c.toNat - '0'.toNat := by
  simp [digitValue, isDigit]

/-- The digits of a number write the number. -/
theorem ofDigits_toDigits (n : Nat) : ofDigits 10 (Nat.toDigits 10 n) = n := by
  have sameSteps : ofDigits 10 (Nat.toDigits 10 n) = Nat.ofDigitChars 10 (Nat.toDigits 10 n) 0 := by
    rw [ofDigits, Nat.ofDigitChars_eq_foldl]
    refine List.foldl_ext _ _ _ fun number c member => ?_
    rw [digitValue_of_isDigit (isDigit_of_mem_digits member), Nat.mul_comm]
  rw [sameSteps, Nat.ofDigitChars_ten_toDigits]

theorem digitChar_ne_zero : ∀ n < 10, n ≠ 0 → n.digitChar ≠ '0' := by decide

/-- Only zero begins with a zero. -/
theorem head?_toDigits_ne_zero {n : Nat} (positive : n ≠ 0) :
    (Nat.toDigits 10 n).head? ≠ some '0' := by
  induction n using Nat.strongRecOn with
  | ind n ih =>
      by_cases small : n < 10
      · simpa [Nat.toDigits_of_lt_base small] using digitChar_ne_zero n small positive
      · obtain ⟨c, cs, front⟩ := List.exists_cons_of_ne_nil
          (Nat.toDigits_ne_nil (n := n / 10) (b := 10))
        have earlier := ih (n / 10) (by omega) (by omega)
        rw [Nat.toDigits_of_base_le (by decide) (by omega), front]
        rwa [front] at earlier

end DevicePanel.Number
