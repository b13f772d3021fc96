import DesktopTrial.Decimal.Reading
import DesktopTrial.Proofs.Text.Runs

/-!
# The digits of a number

The digits of a number spell it, and only zero begins with a zero.
-/

namespace DesktopTrial.Decimal

theorem digitsValue_digits (n : Nat) : digitsValue 0 (digits n) = n := by
  have hvalue := Nat.ofDigitChars_ten_toDigits (n := n)
  rw [Nat.ofDigitChars] at hvalue
  exact hvalue

theorem isDigit_of_mem_digits {n : Nat} : ∀ c ∈ digits n, c.isDigit = true :=
  fun _ => Nat.isDigit_of_mem_toDigits (b := 10) (by decide) (by decide)

theorem digits_ne_nil (n : Nat) : digits n ≠ [] :=
  List.ne_nil_of_length_pos Nat.length_toDigits_pos

theorem digits_of_lt {n : Nat} (hsmall : n < 10) : digits n = [n.digitChar] :=
  Nat.toDigits_of_lt_base hsmall

theorem digits_of_ge {n : Nat} (hlarge : 10 ≤ n) :
    digits n = digits (n / 10) ++ [(n % 10).digitChar] :=
  Nat.toDigits_of_base_le (by decide) hlarge

theorem head?_digits_ne_zero {n : Nat} (hpositive : 0 < n) : (digits n).head? ≠ some '0' := by
  induction n using Nat.strongRecOn with
  | ind n ih =>
    by_cases hsmall : n < 10
    · rw [digits_of_lt hsmall]
      clear ih
      revert hpositive
      revert n
      decide
    · have hlarge : 10 ≤ n := Nat.le_of_not_lt hsmall
      rw [digits_of_ge hlarge, List.head?_append, Option.or_of_isSome (by simp [digits_ne_nil])]
      exact ih (n / 10) (by omega) (by omega)

end DesktopTrial.Decimal
