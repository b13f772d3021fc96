import DesktopTrial.Proofs.Decimal.Binary64
import DesktopTrial.Proofs.Decimal.Digits

/-!
# The shortest decimal is read back

Every decimal that a magnitude covers is read as that magnitude, and the decimal chosen
for a value is one of these.
-/

namespace DesktopTrial.Decimal

open Float.Model Float.Model.UnpackedFloat

/-! ## The ends of the range -/

theorem lt_pow_length_digits (n : Nat) : n < 10 ^ (digits n).length :=
  (Nat.length_toDigits_le_iff (by decide) Nat.length_toDigits_pos).mp (Nat.le_refl _)

theorem pow_length_digits_le {n : Nat} (hn : 0 < n) : 10 ^ ((digits n).length - 1) ≤ n := by
  by_contra hlt
  have hpositive : 0 < (digits n).length - 1 := by
    by_contra hzero
    rw [Nat.eq_zero_of_not_pos hzero] at hlt
    exact hlt hn
  have hshort := (Nat.length_toDigits_le_iff (b := 10) (by decide) hpositive).mpr
    (Nat.lt_of_not_le hlt)
  change (digits n).length ≤ _ at hshort
  omega

theorem length_digits_le {n : Nat} (hn : 0 < n) : (digits n).length ≤ n.log2 + 1 := by
  have hpower : 2 ^ ((digits n).length - 1) < 2 ^ (n.log2 + 1) :=
    calc 2 ^ ((digits n).length - 1) ≤ 10 ^ ((digits n).length - 1) :=
          Nat.pow_le_pow_left (by decide) _
      _ ≤ n := pow_length_digits_le hn
      _ < 2 ^ (n.log2 + 1) := Nat.lt_log2_self
  have hlength := (Nat.pow_lt_pow_iff_right (by decide)).mp hpower
  omega

/-- A decimal lies between the powers of ten that its number of digits says. -/
theorem ten_zpow_bounds {n : Nat} (hn : 0 < n) (e : Int) :
    (10 : ℚ) ^ ((digits n).length + e - 1) ≤ n * 10 ^ e ∧
      (n * 10 ^ e : ℚ) < 10 ^ ((digits n).length + e) := by
  have hpositive : (0 : ℚ) < 10 ^ e := zpow_pos (by norm_num) e
  constructor
  · have hlow : ((10 ^ ((digits n).length - 1) : ℕ) : ℚ) ≤ n := by
      exact_mod_cast pow_length_digits_le hn
    have hlength : 0 < (digits n).length := Nat.length_toDigits_pos
    have hexponent : ((digits n).length + e - 1 : Int) = ((digits n).length - 1 : ℕ) + e := by
      omega
    rw [hexponent, zpow_add₀ (by norm_num), zpow_natCast]
    push_cast at hlow
    exact mul_le_mul_of_nonneg_right hlow hpositive.le
  · have hhigh : (n : ℚ) < ((10 ^ (digits n).length : ℕ) : ℚ) := by
      exact_mod_cast lt_pow_length_digits n
    rw [zpow_add₀ (by norm_num), zpow_natCast]
    push_cast at hhigh
    exact mul_lt_mul_of_pos_right hhigh hpositive

/-- What a finite magnitude covers is neither huge nor tiny. -/
theorem Binary.Covers.range {x : Binary} (hx : x.Canonical) {value : ℚ}
    (hcovers : x.Covers value) : (10 : ℚ) ^ (-400 : Int) ≤ value ∧ value < 10 ^ (399 : Int) := by
  constructor
  · have hpositive : (1 : ℚ) ≤ x.significand := by exact_mod_cast hx.positive
    have hbelow := hcovers.below
    have hwidth : (if x.narrowBelow then 1 else 2 : ℚ) ≤ 2 := by split <;> norm_num
    have hhalf : 1 / 2 ≤ value / 2 ^ x.exponent := by linarith
    have hvalue := (le_div_iff₀ (zpow_pos two_pos _)).mp hhalf
    have hleast : (2 : ℚ) ^ (-1074 : Int) ≤ 2 ^ x.exponent :=
      zpow_le_zpow_right₀ (by norm_num) hx.least
    have hpower : (10 : ℚ) ^ (-400 : Int) ≤ 1 / 2 * 2 ^ (-1074 : Int) := by
      have hnatural : (2 * 2 ^ 1074 : ℕ) ≤ 10 ^ 400 := by decide +kernel
      have hrational : (2 * 2 ^ 1074 : ℚ) ≤ 10 ^ 400 := by exact_mod_cast hnatural
      have hinverse := inv_anti₀ (by positivity) hrational
      rw [zpow_neg, zpow_neg, one_div, ← mul_inv]
      exact hinverse
    linarith
  · have hvalue := hcovers.lt hx
    have hgreatest : (2 : ℚ) ^ (53 + x.exponent) ≤ 2 ^ (1024 : Int) :=
      zpow_le_zpow_right₀ (by norm_num) (by linarith [hx.greatest])
    have hpower : (2 : ℚ) ^ (1024 : Int) < 10 ^ (399 : Int) := by
      have hnatural : (2 ^ 1024 : ℕ) < 10 ^ 399 := by decide +kernel
      have hrational : (2 ^ 1024 : ℚ) < 10 ^ 399 := by exact_mod_cast hnatural
      exact hrational
    exact hvalue.trans_le (hgreatest.trans hpower.le)

/-- A decimal that a magnitude covers is read as the value with that magnitude. -/
theorem toFloat_of_covers {x : Binary} (hx : x.Canonical) {n : Nat} {e : Int} (hn : 0 < n)
    (hcovers : x.Covers (n * 10 ^ e)) (negative : Bool) :
    Decimal.toFloat negative n e = Binary.float hx (if negative then .negative else .positive) := by
  obtain ⟨hlow, hhigh⟩ := ten_zpow_bounds hn e
  obtain ⟨htiny, hhuge⟩ := hcovers.range hx
  have hten : (1 : ℚ) < 10 := by norm_num
  have htop := (zpow_lt_zpow_iff_right₀ hten).mp (hlow.trans_lt hhuge)
  have hbottom := (zpow_lt_zpow_iff_right₀ hten).mp (htiny.trans_lt hhigh)
  have hlength := length_digits_le hn
  have hsome : 0 < (digits n).length := Nat.length_toDigits_pos
  have hread := ofScientific_of_covers hx hn (e := e) (by omega) (by omega) hcovers
  have hmagnitude : Decimal.toFloat false n e = Binary.float hx .positive := by
    simp only [Decimal.toFloat, Bool.false_eq_true, if_false]
    rw [if_neg hn.ne', if_neg (by omega), if_neg (by omega)]
    exact hread
  cases negative with
  | false => exact hmagnitude
  | true =>
      rw [if_pos rfl, ← Binary.neg_float, ← hmagnitude]
      simp only [Decimal.toFloat, if_true, Bool.false_eq_true, if_false]

/-! ## The chosen decimal -/

def Scaled.value (d : Scaled) : ℚ := d.digits * 10 ^ d.exponent

/-- The quarter of the significand's unit and the step, as a grid scales them. -/
theorem Binary.grid_scale (x : Binary) (exponent : Int) :
    (2 ^ (x.exponent - 2) / 10 ^ exponent : ℚ) *
        ((2 ^ (2 - x.exponent).toNat * 10 ^ exponent.toNat : ℕ) : ℚ) =
      ((2 ^ (x.exponent - 2).toNat * 10 ^ (-exponent).toNat : ℕ) : ℚ) := by
  have htwo := zpow_mul_pow_toNat (by norm_num : (2 : ℚ) ≠ 0) (x.exponent - 2)
  have hten := zpow_mul_pow_toNat (by norm_num : (10 : ℚ) ≠ 0) (-exponent)
  rw [neg_sub] at htwo
  rw [neg_neg] at hten
  push_cast
  rw [← htwo, ← hten, zpow_neg]
  ring

/-- The point of a grid in quarters of the significand's unit. -/
theorem Binary.grid_point (x : Binary) (exponent : Int) (count : Nat) :
    (count * (x.grid exponent).step : ℚ) =
      4 * (count * 10 ^ exponent / 2 ^ x.exponent) *
        ((2 ^ (x.exponent - 2).toNat * 10 ^ (-exponent).toNat : ℕ) : ℚ) := by
  have hscale := x.grid_scale exponent
  have htwo : (2 : ℚ) ^ x.exponent = 2 ^ (x.exponent - 2) * 4 := by
    rw [show (4 : ℚ) = 2 ^ (2 : Int) by norm_num, ← zpow_add₀ two_ne_zero]
    congr 1
    omega
  have hpositive : (0 : ℚ) < 10 ^ exponent := zpow_pos (by norm_num) _
  have hstep : (x.grid exponent).step = 2 ^ (2 - x.exponent).toNat * 10 ^ exponent.toNat := rfl
  rw [← hscale, hstep, htwo]
  have : (2 : ℚ) ^ (x.exponent - 2) ≠ 0 := zpow_ne_zero _ two_ne_zero
  field_simp

/-- A point of a grid that reads back is covered. -/
theorem Grid.covers {x : Binary} (hx : x.Canonical) {exponent : Int} {count : Nat}
    (hread : (x.grid exponent).readsBack count = true) :
    x.Covers (count * 10 ^ exponent) := by
  set quarter : Nat := 2 ^ (x.exponent - 2).toNat * 10 ^ (-exponent).toNat with hquarter
  have hpositive : (0 : ℚ) < quarter := by
    rw [hquarter]
    positivity
  have hpoint := x.grid_point exponent count
  rw [← hquarter] at hpoint
  have hwidth : (if x.narrowBelow then 1 else 2) ≤ 4 * x.significand := by
    have := hx.positive
    split <;> omega
  have hlow : ((x.grid exponent).low : ℚ) =
      ((4 * x.significand : ℚ) - (if x.narrowBelow then 1 else 2)) * quarter := by
    have hvalue : (x.grid exponent).low =
        (4 * x.significand - if x.narrowBelow then 1 else 2) * quarter := rfl
    rw [hvalue]
    push_cast [hwidth]
    split <;> norm_num
  have hhigh : ((x.grid exponent).high : ℚ) = (4 * x.significand + 2) * quarter := by
    have hvalue : (x.grid exponent).high = (4 * x.significand + 2) * quarter := rfl
    rw [hvalue]
    push_cast
    rfl
  have hclosed : (x.grid exponent).closed = true → x.significand % 2 = 0 := of_decide_eq_true
  simp only [Grid.readsBack, Bool.and_eq_true, Bool.or_eq_true, decide_eq_true_eq,
    beq_iff_eq] at hread
  have hends : ((x.grid exponent).low : ℚ) ≤ count * (x.grid exponent).step ∧
      (count * (x.grid exponent).step : ℚ) ≤ (x.grid exponent).high := by
    have hnatural : (x.grid exponent).low ≤ count * (x.grid exponent).step ∧
        count * (x.grid exponent).step ≤ (x.grid exponent).high := by omega
    exact_mod_cast hnatural
  rw [hpoint, hlow, hhigh] at hends
  refine ⟨le_of_mul_le_mul_right hends.1 hpositive, le_of_mul_le_mul_right hends.2 hpositive, ?_⟩
  rintro (hend | hend)
  · have hsame : (x.grid exponent).low = count * (x.grid exponent).step := by
      rw [hend, ← hlow] at hpoint
      exact_mod_cast hpoint.symm
    exact hclosed (hread.1.resolve_left (by omega)).1
  · have hsame : count * (x.grid exponent).step = (x.grid exponent).high := by
      rw [hend, ← hhigh] at hpoint
      exact_mod_cast hpoint
    exact hclosed (hread.2.resolve_left (by omega)).1

/-- The chosen point of a grid reads back. -/
theorem Grid.readsBack_of_nearest? {g : Grid} {tie : Tie} {count : Nat}
    (hnearest : g.nearest? tie = some count) : g.readsBack count = true := by
  simp only [Grid.nearest?] at hnearest
  split at hnearest
  · rename_i hbelow habove
    repeat' split at hnearest
    all_goals
      cases hnearest
      assumption
  · rename_i hbelow habove
    cases hnearest
    exact hbelow
  · rename_i hbelow habove
    cases hnearest
    exact habove
  · cases hnearest

/-- A magnitude written out to its last digit. -/
theorem Binary.value_exact (x : Binary) : x.exact.value = x.significand * 2 ^ x.exponent := by
  have htwo := zpow_mul_pow_toNat (by norm_num : (2 : ℚ) ≠ 0) x.exponent
  simp only [Binary.exact, Scaled.value, Nat.pow_eq]
  push_cast
  rw [← htwo]
  split
  · rename_i hnegative
    have hten : (10 : ℚ) ^ x.exponent = (2 ^ (-x.exponent).toNat * 5 ^ (-x.exponent).toNat)⁻¹ := by
      rw [← mul_pow, show (2 * 5 : ℚ) = 10 by norm_num, ← zpow_natCast,
        Int.toNat_of_nonneg (by omega), ← zpow_neg, neg_neg]
    rw [hten]
    field_simp
  · rename_i hpositive
    rw [Int.toNat_of_nonpos (by omega)]
    simp

theorem stripZeros_value (fuel : Nat) (d : Scaled) : (stripZeros fuel d).value = d.value := by
  induction fuel generalizing d with
  | zero => rfl
  | succ fuel ih =>
      rw [stripZeros]
      split
      · rename_i hzero
        rw [ih]
        have hdigits : d.digits = 10 * (d.digits / 10) := by omega
        have hcast : (d.digits : ℚ) = 10 * (d.digits / 10 : ℕ) := by exact_mod_cast hdigits
        rw [Scaled.value, Scaled.value, hcast, zpow_add₀ (by norm_num), zpow_one]
        ring
      · rfl

/-- The chosen decimal is covered by the magnitude it is chosen for. -/
theorem Binary.covers_shortest {x : Binary} (hx : x.Canonical) (tie : Tie) :
    x.Covers (x.shortest tie).value := by
  rw [Binary.shortest, stripZeros_value]
  cases hfound : (List.range 17).findSome? fun (extra : Nat) =>
      ((x.grid (x.leadingPower - extra)).nearest? tie).map fun count =>
        (⟨count, x.leadingPower - extra⟩ : Scaled) with
  | none =>
      rw [Option.getD_none, x.value_exact]
      exact x.covers_self
  | some d =>
      obtain ⟨extra, -, hsome⟩ := List.exists_of_findSome?_eq_some hfound
      obtain ⟨count, hnearest, rfl⟩ := Option.map_eq_some_iff.mp hsome
      exact Grid.covers hx (Grid.readsBack_of_nearest? hnearest)

end DesktopTrial.Decimal
