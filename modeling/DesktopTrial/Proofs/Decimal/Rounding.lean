import DesktopTrial.Decimal.Shortest
import Mathlib

/-!
# Rounding to binary64

A value with the digits that are dropped behind its mantissa is rounded to the nearest
mantissa, to the even one of two.  So every value among those that a binary64 magnitude
covers is rounded to this magnitude.
-/

namespace DesktopTrial.Decimal

open Float.Model Float.Model.UnpackedFloat

/-! ## Mantissas with dropped digits -/

/-- The mantissa stands for a value, and the accuracy tells how the value goes on. -/
def Approximates (mantissa : Nat) (accuracy : Accuracy) (value : ℚ) : Prop :=
  match accuracy with
  | .exact => value = mantissa
  | .inexact .lt => mantissa < value ∧ value < mantissa + 1 / 2
  | .inexact .eq => value = mantissa + 1 / 2
  | .inexact .gt => mantissa + 1 / 2 < value ∧ value < mantissa + 1

theorem Approximates.le {mantissa : Nat} {accuracy : Accuracy} {value : ℚ}
    (happrox : Approximates mantissa accuracy value) : mantissa ≤ value := by
  match accuracy with
  | .exact => exact le_of_eq happrox.symm
  | .inexact .lt => exact happrox.1.le
  | .inexact .eq => rw [show value = mantissa + 1 / 2 from happrox]; linarith
  | .inexact .gt => linarith [happrox.1]

theorem Approximates.lt {mantissa : Nat} {accuracy : Accuracy} {value : ℚ}
    (happrox : Approximates mantissa accuracy value) : value < mantissa + 1 := by
  match accuracy with
  | .exact => rw [show value = mantissa from happrox]; linarith
  | .inexact .lt => linarith [happrox.2]
  | .inexact .eq => rw [show value = mantissa + 1 / 2 from happrox]; linarith
  | .inexact .gt => exact happrox.2

theorem Approximates.ofMantissaAndAccuracy {mantissa : Nat} {accuracy : Accuracy} {value : ℚ}
    (happrox : Approximates mantissa accuracy value) :
    Approximates (ExtendedMantissa.ofMantissaAndAccuracy mantissa accuracy).mantissa
      (ExtendedMantissa.ofMantissaAndAccuracy mantissa accuracy).accuracy value := by
  match accuracy with
  | .exact | .inexact .lt | .inexact .eq | .inexact .gt => exact happrox

/-- A digit that is shifted out goes into the accuracy. -/
theorem Approximates.shiftRightOne {em : ExtendedMantissa} {value : ℚ}
    (happrox : Approximates em.mantissa em.accuracy value) :
    Approximates em.shiftRightOne.mantissa em.shiftRightOne.accuracy (value / 2) := by
  obtain ⟨mantissa, roundBit, stickyBit⟩ := em
  obtain ⟨half, rfl | rfl⟩ := Nat.even_or_odd' mantissa
  · have hhalf : 2 * half / 2 = half := by omega
    have hbit : (2 * half % 2 != 0) = false := by simp
    cases roundBit <;> cases stickyBit <;>
      simp only [ExtendedMantissa.accuracy, Approximates, ExtendedMantissa.shiftRightOne, hhalf,
        hbit, Bool.or_self, Bool.or_true, Bool.or_false] at happrox ⊢ <;>
      push_cast at happrox <;> grind
  · have hhalf : (2 * half + 1) / 2 = half := by omega
    have hbit : ((2 * half + 1) % 2 != 0) = true := by simp
    cases roundBit <;> cases stickyBit <;>
      simp only [ExtendedMantissa.accuracy, Approximates, ExtendedMantissa.shiftRightOne, hhalf,
        hbit, Bool.or_self, Bool.or_true, Bool.or_false] at happrox ⊢ <;>
      push_cast at happrox <;> grind

theorem Approximates.shiftRight {em : ExtendedMantissa} {value : ℚ}
    (happrox : Approximates em.mantissa em.accuracy value) (n : Nat) :
    Approximates (em >>> n).mantissa (em >>> n).accuracy (value / 2 ^ n) := by
  induction n with
  | zero =>
      rw [pow_zero, div_one]
      exact happrox
  | succ n ih =>
      have hstep := ih.shiftRightOne
      rw [div_div, ← pow_succ] at hstep
      exact hstep

/-! ## The nearest mantissa -/

/-- No natural number is nearer to the value, and of two equally near ones this is even. -/
structure Nearest (mantissa : Nat) (value : ℚ) : Prop where
  below : (mantissa : ℚ) - 1 / 2 ≤ value
  above : value ≤ mantissa + 1 / 2
  even : value = mantissa - 1 / 2 ∨ value = mantissa + 1 / 2 → mantissa % 2 = 0

theorem Approximates.nearest {mantissa : Nat} {accuracy : Accuracy} {value : ℚ}
    (happrox : Approximates mantissa accuracy value) :
    Nearest (accuracy.roundToNearestEven mantissa) value := by
  match accuracy with
  | .exact =>
      rw [show value = mantissa from happrox]
      refine ⟨by simp only [Accuracy.roundToNearestEven]; linarith,
        by simp only [Accuracy.roundToNearestEven]; linarith, ?_⟩
      simp only [Accuracy.roundToNearestEven]
      rintro (h | h) <;> linarith
  | .inexact .lt =>
      obtain ⟨hlow, hhigh⟩ := happrox
      simp only [Accuracy.roundToNearestEven]
      refine ⟨by linarith, by linarith, ?_⟩
      rintro (h | h) <;> linarith
  | .inexact .eq =>
      rw [show value = mantissa + 1 / 2 from happrox]
      simp only [Accuracy.roundToNearestEven]
      obtain heven | hodd := Nat.mod_two_eq_zero_or_one mantissa
      · rw [heven]
        exact ⟨by simp; linarith, by simp, fun _ => by simpa using heven⟩
      · rw [hodd]
        exact ⟨by push_cast; linarith, by push_cast; linarith, fun _ => by omega⟩
  | .inexact .gt =>
      obtain ⟨hlow, hhigh⟩ := happrox
      simp only [Accuracy.roundToNearestEven]
      refine ⟨by push_cast; linarith, by push_cast; linarith, ?_⟩
      push_cast
      rintro (h | h) <;> linarith

theorem Nearest.unique {m n : Nat} {value : ℚ} (hm : Nearest m value) (hn : Nearest n value) :
    m = n := by
  have hdistance : (m : ℚ) ≤ n + 1 ∧ (n : ℚ) ≤ m + 1 :=
    ⟨by linarith [hm.below, hn.above], by linarith [hn.below, hm.above]⟩
  have hnear : m ≤ n + 1 ∧ n ≤ m + 1 := by exact_mod_cast hdistance
  by_contra hne
  -- Two numbers that are equally near are neighbours, and only one of these is even.
  obtain rfl | rfl : m = n + 1 ∨ n = m + 1 := by omega
  · have hbelow := hm.below
    have habove := hn.above
    push_cast at hbelow
    have hvalue : value = n + 1 / 2 := by linarith
    have heven := hn.even (.inr hvalue)
    have hodd := hm.even (.inl (by push_cast; linarith))
    omega
  · have hbelow := hn.below
    have habove := hm.above
    push_cast at hbelow
    have hvalue : value = m + 1 / 2 := by linarith
    have heven := hm.even (.inr hvalue)
    have hodd := hn.even (.inl (by push_cast; linarith))
    omega

/-! ## Magnitudes and what they cover -/

/-- The magnitude of a finite binary64 value other than zero, with its one exponent. -/
structure Binary.Canonical (x : Binary) : Prop where
  positive : 0 < x.significand
  bounded : x.significand < 2 ^ 53
  least : -1074 ≤ x.exponent
  greatest : x.exponent ≤ 971
  normal : 2 ^ 52 ≤ x.significand ∨ x.exponent = -1074
  narrow : x.narrowBelow = true ↔ x.significand = 2 ^ 52 ∧ -1074 < x.exponent

/-- The value lies no further from the magnitude than half the gap to the next one, and
at the ends only if the significand is even. -/
structure Binary.Covers (x : Binary) (value : ℚ) : Prop where
  below : (4 * x.significand : ℚ) - (if x.narrowBelow then 1 else 2) ≤
    4 * (value / 2 ^ x.exponent)
  above : 4 * (value / 2 ^ x.exponent) ≤ 4 * x.significand + 2
  even : 4 * (value / 2 ^ x.exponent) = (4 * x.significand : ℚ) - (if x.narrowBelow then 1 else 2) ∨
    4 * (value / 2 ^ x.exponent) = 4 * x.significand + 2 → x.significand % 2 = 0

theorem Binary.Covers.nearest {x : Binary} {value : ℚ} (hcovers : x.Covers value) :
    Nearest x.significand (value / 2 ^ x.exponent) := by
  have hbelow := hcovers.below
  have hwidth : (if x.narrowBelow then 1 else 2 : ℚ) ≤ 2 := by split <;> norm_num
  refine ⟨by linarith, by linarith [hcovers.above], ?_⟩
  rintro (hlow | hhigh)
  · refine hcovers.even (.inl ?_)
    linarith
  · refine hcovers.even (.inr ?_)
    linarith

/-- The exponent that a mantissa is shifted to. -/
def targetOf (mantissa : Nat) (exponent : Int) : Int :=
  max (mantissa.log2 + exponent - 52) (-1074)

theorem targetExponent_eq (mantissa : Nat) (exponent : Int) :
    Format.binary64.targetExponent (totalExponent mantissa exponent) =
      targetOf mantissa exponent := by
  simp only [Format.targetExponent, totalExponent, Format.mantissaBits, Format.minExponent,
    targetOf]
  norm_num
  omega

/-- A power with any exponent, told by powers with natural ones. -/
theorem zpow_mul_pow_toNat {b : ℚ} (hb : b ≠ 0) (e : Int) :
    b ^ e * b ^ (-e).toNat = b ^ e.toNat := by
  rw [← zpow_natCast, ← zpow_natCast, ← zpow_add₀ hb]
  congr 1
  omega

/-- Shifting to the target exponent keeps what the mantissa stands for. -/
theorem shiftToTargetExponent_approximates {mantissa : Nat} {exponent : Int}
    {accuracy : Accuracy} {value : ℚ}
    (happrox : Approximates mantissa accuracy (value / 2 ^ exponent))
    (htarget : exponent ≤ targetOf mantissa exponent) :
    ∃ em, shiftToTargetExponent Format.binary64 mantissa exponent accuracy =
        (em, targetOf mantissa exponent) ∧
      Approximates em.mantissa em.accuracy (value / 2 ^ targetOf mantissa exponent) := by
  obtain ⟨n, hn⟩ := Int.eq_ofNat_of_zero_le (sub_nonneg.mpr htarget)
  have hamount : (targetOf mantissa exponent - exponent).toNat = n := by omega
  have hend : targetOf mantissa exponent = exponent + n := by omega
  refine ⟨ExtendedMantissa.ofMantissaAndAccuracy mantissa accuracy >>> n, ?_, ?_⟩
  · simp only [shiftToTargetExponent, shiftToExponent, targetExponent_eq, hamount, ← hend]
  · have hshifted := happrox.ofMantissaAndAccuracy.shiftRight n
    rw [div_div, ← zpow_natCast, ← zpow_add₀ two_ne_zero, ← hend] at hshifted
    exact hshifted

/-- A mantissa that fits is left where it is. -/
theorem shiftToTargetExponent_of_fits {mantissa : Nat} {exponent : Int}
    (hmantissa : mantissa < 2 ^ 53) (hexponent : -1074 ≤ exponent) :
    shiftToTargetExponent Format.binary64 mantissa exponent .exact =
      (⟨mantissa, false, false⟩, exponent) := by
  have hlog : mantissa.log2 ≤ 52 := by
    rcases Nat.eq_zero_or_pos mantissa with rfl | hpositive
    · decide
    · exact Nat.le_of_lt_succ ((Nat.log2_lt (Nat.ne_of_gt hpositive)).mpr hmantissa)
  have hamount : (targetOf mantissa exponent - exponent).toNat = 0 := by
    simp only [targetOf]
    omega
  simp only [shiftToTargetExponent, shiftToExponent, targetExponent_eq, hamount]
  simp [ExtendedMantissa.ofMantissaAndAccuracy]
  rfl

/-- A mantissa with one digit too many is halved. -/
theorem shiftToTargetExponent_of_overflow {exponent : Int} (hexponent : -1074 ≤ exponent) :
    shiftToTargetExponent Format.binary64 (2 ^ 53) exponent .exact =
      (⟨2 ^ 52, false, false⟩, exponent + 1) := by
  have hamount : (targetOf (2 ^ 53) exponent - exponent).toNat = 1 := by
    simp only [targetOf, Nat.log2_two_pow]
    omega
  simp only [shiftToTargetExponent, shiftToExponent, targetExponent_eq, hamount]
  rfl

/-- A mantissa brackets its value between two powers of two. -/
theorem Approximates.zpow_log2_le {mantissa : Nat} {exponent : Int} {accuracy : Accuracy}
    {value : ℚ} (happrox : Approximates mantissa accuracy (value / 2 ^ exponent))
    (hpositive : 0 < mantissa) : 2 ^ (mantissa.log2 + exponent) ≤ value := by
  have hlog : ((2 ^ mantissa.log2 : ℕ) : ℚ) ≤ mantissa := by
    exact_mod_cast Nat.log2_self_le (Nat.ne_of_gt hpositive)
  have hscaled := (le_div_iff₀ (zpow_pos two_pos exponent)).mp (hlog.trans happrox.le)
  rw [zpow_add₀ two_ne_zero, zpow_natCast]
  exact_mod_cast hscaled

theorem Approximates.lt_zpow_log2 {mantissa : Nat} {exponent : Int} {accuracy : Accuracy}
    {value : ℚ} (happrox : Approximates mantissa accuracy (value / 2 ^ exponent)) :
    value < 2 ^ (mantissa.log2 + 1 + exponent) := by
  have hlog : (mantissa : ℚ) + 1 ≤ ((2 ^ (mantissa.log2 + 1) : ℕ) : ℚ) := by
    exact_mod_cast Nat.lt_log2_self (n := mantissa)
  have hscaled := (div_lt_iff₀ (zpow_pos two_pos exponent)).mp (happrox.lt.trans_le hlog)
  rw [zpow_add₀ two_ne_zero,
    show ((mantissa.log2 : Int) + 1) = ((mantissa.log2 + 1 : ℕ) : Int) by simp,
    zpow_natCast]
  exact_mod_cast hscaled

theorem Binary.Covers.lt {x : Binary} {value : ℚ} (hcovers : x.Covers value)
    (hx : x.Canonical) : value < 2 ^ (53 + x.exponent) := by
  have hbounded : (x.significand : ℚ) + 1 ≤ 2 ^ 53 := by exact_mod_cast hx.bounded
  have hunits : value / 2 ^ x.exponent < 2 ^ 53 := by linarith [hcovers.above]
  rw [zpow_add₀ two_ne_zero]
  exact (div_lt_iff₀ (zpow_pos two_pos _)).mp hunits

theorem Binary.Covers.pos {x : Binary} {value : ℚ} (hcovers : x.Covers value)
    (hx : x.Canonical) : 0 < value := by
  have hpositive : (1 : ℚ) ≤ x.significand := by exact_mod_cast hx.positive
  have hbelow := hcovers.below
  have hwidth : (if x.narrowBelow then 1 else 2 : ℚ) ≤ 2 := by split <;> norm_num
  have hunits : 0 < value / 2 ^ x.exponent := by linarith
  rwa [lt_div_iff₀ (zpow_pos two_pos _), zero_mul] at hunits

/-- A value that is covered is not rounded above the exponent of the magnitude. -/
theorem targetOf_le {x : Binary} (hx : x.Canonical) {mantissa : Nat} {exponent : Int}
    {accuracy : Accuracy} {value : ℚ} (hcovers : x.Covers value)
    (happrox : Approximates mantissa accuracy (value / 2 ^ exponent))
    (hdigits : 52 ≤ mantissa.log2 ∨ exponent = -1074) :
    targetOf mantissa exponent ≤ x.exponent := by
  have hleast := hx.least
  rcases Nat.eq_zero_or_pos mantissa with rfl | hpositive
  · have hexponent : exponent = -1074 := hdigits.resolve_left (by decide)
    subst hexponent
    exact hleast
  · have hbelow := (happrox.zpow_log2_le hpositive).trans_lt (hcovers.lt hx)
    rw [zpow_lt_zpow_iff_right₀ one_lt_two] at hbelow
    simp only [targetOf]
    omega

/-- Under the least significand only the least one covers, and it covers half as far down. -/
theorem Binary.Covers.of_lt_least {x : Binary} (hx : x.Canonical) {value : ℚ}
    (hcovers : x.Covers value) (hexponent : x.exponent ≠ -1074)
    (hunder : value < 2 ^ (52 + x.exponent)) :
    x.significand = 2 ^ 52 ∧ (2 ^ 54 - 1 : ℚ) ≤ 4 * (value / 2 ^ x.exponent) := by
  have hnormal := hx.normal.resolve_right hexponent
  have hleast := hx.least
  have hbelow := hcovers.below
  have hunits : value / 2 ^ x.exponent < 2 ^ 52 := by
    rw [div_lt_iff₀ (zpow_pos two_pos _), ← zpow_natCast, ← zpow_add₀ two_ne_zero]
    exact_mod_cast hunder
  have hwidth : (if x.narrowBelow then 1 else 2 : ℚ) ≤ 2 := by split <;> norm_num
  have hleastSignificand : x.significand = 2 ^ 52 := by
    have hsmall : (x.significand : ℚ) < 2 ^ 52 + 1 := by linarith
    have : x.significand < 2 ^ 52 + 1 := by exact_mod_cast hsmall
    omega
  have hnarrow : x.narrowBelow = true := hx.narrow.mpr ⟨hleastSignificand, by omega⟩
  refine ⟨hleastSignificand, ?_⟩
  rw [hnarrow, hleastSignificand, if_pos rfl] at hbelow
  push_cast at hbelow
  linarith

/-- A value that is covered is rounded at the exponent of the magnitude, or one below it
when it lies under the least significand. -/
theorem targetOf_of_covers {x : Binary} (hx : x.Canonical) {mantissa : Nat} {exponent : Int}
    {accuracy : Accuracy} {value : ℚ} (hcovers : x.Covers value)
    (happrox : Approximates mantissa accuracy (value / 2 ^ exponent))
    (hdigits : 52 ≤ mantissa.log2 ∨ exponent = -1074) :
    targetOf mantissa exponent = x.exponent ∨
      targetOf mantissa exponent = x.exponent - 1 ∧ x.significand = 2 ^ 52 ∧
        value < 2 ^ (52 + x.exponent) ∧ (2 ^ 54 - 1 : ℚ) ≤ 4 * (value / 2 ^ x.exponent) := by
  have hle := targetOf_le hx hcovers happrox hdigits
  by_cases hexponent : x.exponent = -1074
  · left
    simp only [targetOf] at hle ⊢
    omega
  · have hleast := hx.least
    by_cases hunder : value < 2 ^ (52 + x.exponent)
    · right
      obtain ⟨hleastSignificand, hlow⟩ := hcovers.of_lt_least hx hexponent hunder
      refine ⟨?_, hleastSignificand, hunder, hlow⟩
      have habove : (2 : ℚ) ^ (51 + x.exponent) ≤ value := by
        rw [zpow_add₀ two_ne_zero, ← le_div_iff₀ (zpow_pos two_pos _)]
        have : ((2 : ℚ) ^ (51 : ℤ)) ≤ (2 ^ 54 - 1) / 4 := by norm_num
        linarith
      have hlower := (zpow_lt_zpow_iff_right₀ one_lt_two).mp (habove.trans_lt happrox.lt_zpow_log2)
      have hmantissa : 0 < mantissa := by
        by_contra hzero
        obtain rfl : mantissa = 0 := by omega
        have hfixed : exponent = -1074 := hdigits.resolve_left (by decide)
        simp only [Nat.log2_zero] at hlower
        omega
      have hupper := (zpow_lt_zpow_iff_right₀ one_lt_two).mp
        ((happrox.zpow_log2_le hmantissa).trans_lt hunder)
      simp only [targetOf]
      omega
    · left
      have hlower := (zpow_lt_zpow_iff_right₀ one_lt_two).mp
        ((not_lt.mp hunder).trans_lt happrox.lt_zpow_log2)
      have hmantissa : mantissa.log2 + exponent - 52 ≥ x.exponent := by omega
      simp only [targetOf] at hle ⊢
      omega

/-- Every value that a magnitude covers is rounded to it. -/
theorem roundWithAccuracy_of_covers {x : Binary} (hx : x.Canonical) (sign : Sign)
    {mantissa : Nat} {exponent : Int} {accuracy : Accuracy} {value : ℚ}
    (hcovers : x.Covers value)
    (happrox : Approximates mantissa accuracy (value / 2 ^ exponent))
    (hdigits : 52 ≤ mantissa.log2 ∨ exponent = -1074) :
    roundWithAccuracy Format.binary64 sign mantissa exponent accuracy =
      .finite sign x.significand x.exponent hx.positive := by
  have hshift : exponent ≤ targetOf mantissa exponent := by
    simp only [targetOf]
    omega
  obtain ⟨em, hfirst, hem⟩ := shiftToTargetExponent_approximates happrox hshift
  have hrounded := hem.nearest
  rcases targetOf_of_covers hx hcovers happrox hdigits with htarget | htarget
  · rw [htarget] at hfirst hrounded
    have hsame : em.roundedMantissa = x.significand := hrounded.unique hcovers.nearest
    have hsecond := shiftToTargetExponent_of_fits hx.bounded hx.least
    simp only [roundWithAccuracy, hfirst, hsame, hsecond]
    rw [dif_neg (Nat.ne_of_gt hx.positive)]
  · obtain ⟨htarget, hsignificand, hunder, hlow⟩ := htarget
    rw [htarget] at hfirst hrounded
    -- One exponent lower the mantissa is rounded up to a power of two, and halved again.
    have hunits : value / 2 ^ (x.exponent - 1) = 2 * (value / 2 ^ x.exponent) := by
      rw [sub_eq_add_neg, zpow_add₀ two_ne_zero, zpow_neg_one]
      field_simp
    have hbelow : value / 2 ^ x.exponent < 2 ^ 52 := by
      rw [div_lt_iff₀ (zpow_pos two_pos _), ← zpow_natCast, ← zpow_add₀ two_ne_zero]
      exact_mod_cast hunder
    have hpower : Nearest (2 ^ 53) (value / 2 ^ (x.exponent - 1)) := by
      rw [hunits]
      refine ⟨?_, ?_, fun _ => by decide⟩
      · push_cast
        linarith
      · push_cast
        linarith
    have hsame : em.roundedMantissa = 2 ^ 53 := hrounded.unique hpower
    have hexponent : -1074 ≤ x.exponent - 1 := by
      rw [← htarget]
      exact le_max_right _ _
    have hsecond := shiftToTargetExponent_of_overflow hexponent
    simp only [roundWithAccuracy, hfirst, hsame, hsecond, sub_add_cancel]
    rw [dif_neg (by decide)]
    simp only [hsignificand]

end DesktopTrial.Decimal
