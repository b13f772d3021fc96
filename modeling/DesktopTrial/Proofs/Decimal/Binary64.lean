import DesktopTrial.Decimal.Reading
import DesktopTrial.Proofs.Decimal.Rounding
import Mathlib

/-!
# Binary64 values by sign and magnitude

A finite binary64 value is a sign and a magnitude, and arithmetic rounds the exact result
to such a value.  So a decimal that the magnitude of a value covers is read as that value,
whichever way is taken to compute it.
-/

namespace DesktopTrial.Decimal

open Float.Model Float.Model.UnpackedFloat

/-! ## The bits of a value -/

def signOf (bits : UInt64) : Sign := if signBit bits then .negative else .positive

theorem toNat_unpackMantissa (bits : UInt64) :
    (@unpackMantissa Format.binary64 bits.toBitVec).toNat = bits.toNat % 2 ^ 52 := by
  simp [unpackMantissa]

theorem toNat_unpackExponent (bits : UInt64) :
    (@unpackExponent Format.binary64 bits.toBitVec).toNat =
      bits.toNat / 2 ^ 52 % 2 ^ 11 := by
  simp [unpackExponent, Nat.shiftRight_eq_div_pow]

theorem ofBitVec_unpackSign (bits : UInt64) :
    Sign.ofBitVec (@unpackSign Format.binary64 bits.toBitVec) = signOf bits := by
  have hsmall : bits.toNat / 2 ^ 63 < 2 := by
    have := bits.toNat_lt
    omega
  have hbit : (@unpackSign Format.binary64 bits.toBitVec).toNat =
      bits.toNat / 2 ^ 63 := by
    simp [unpackSign, Nat.shiftRight_eq_div_pow]
    omega
  have hzero : @unpackSign Format.binary64 bits.toBitVec = 0#1 ↔
      bits.toNat / 2 ^ 63 = 0 := by
    rw [← BitVec.toNat_inj, hbit]
    rfl
  simp only [Sign.ofBitVec, signOf, signBit, Nat.pow_eq, hzero, beq_iff_eq]
  split <;> split <;> first | rfl | omega

/-- The exponent in the bits of a finite value is not the greatest one. -/
theorem exponentBits_ne {x : Float} (hfinite : x.isFinite = true) :
    @unpackExponent Format.binary64 x.toBits.toBitVec ≠ -1#11 := by
  intro hlast
  have hunpack : (UnpackedFloat.unpack Format.binary64 x.toBits.toBitVec).isFinite = true :=
    hfinite
  rw [UnpackedFloat.unpack] at hunpack
  simp only [hlast, if_true] at hunpack
  split at hunpack <;> cases hunpack

theorem exponentBits_lt {x : Float} (hfinite : x.isFinite = true) :
    x.toBits.toNat / 2 ^ 52 % 2 ^ 11 < 2047 := by
  have hne := exponentBits_ne hfinite
  rw [ne_eq, ← BitVec.toNat_inj, toNat_unpackExponent] at hne
  have hlast : (-1#11).toNat = 2047 := rfl
  omega

/-- The significand with its leading bit, which the bits leave out. -/
theorem toNat_leadingBit (bits : UInt64) :
    (1#1 ++ @unpackMantissa Format.binary64 bits.toBitVec).toNat =
      2 ^ 52 + bits.toNat % 2 ^ 52 := by
  have hmantissa := toNat_unpackMantissa bits
  rw [BitVec.toNat_append, ← Nat.shiftLeft_add_eq_or_of_lt (BitVec.isLt _), hmantissa]
  rfl

/-- A finite value is a sign and a magnitude. -/
theorem unpack_toModel {x : Float} (hfinite : x.isFinite = true) :
    x.toModel.unpack =
      if h : (Binary.ofBits x.toBits).significand = 0 then .zero (signOf x.toBits)
      else .finite (signOf x.toBits) (Binary.ofBits x.toBits).significand
        (Binary.ofBits x.toBits).exponent (Nat.pos_of_ne_zero h) := by
  have hexponent := toNat_unpackExponent x.toBits
  have hmantissa := toNat_unpackMantissa x.toBits
  have hzero : @unpackExponent Format.binary64 x.toBits.toBitVec = 0#11 ↔
      x.toBits.toNat / 2 ^ 52 % 2 ^ 11 = 0 := by
    rw [← BitVec.toNat_inj, hexponent]
    rfl
  have hnone : @unpackMantissa Format.binary64 x.toBits.toBitVec = 0#52 ↔
      x.toBits.toNat % 2 ^ 52 = 0 := by
    rw [← BitVec.toNat_inj, hmantissa]
    rfl
  change UnpackedFloat.unpack Format.binary64 x.toBits.toBitVec = _
  rw [UnpackedFloat.unpack]
  simp only [exponentBits_ne hfinite, if_false, ofBitVec_unpackSign, hzero, hnone]
  by_cases hsubnormal : x.toBits.toNat / 2 ^ 52 % 2 ^ 11 = 0
  · have hbits : Binary.ofBits x.toBits = ⟨x.toBits.toNat % 2 ^ 52, -1074, false⟩ := by
      simp only [Binary.ofBits, Nat.pow_eq, hsubnormal, if_true]
    simp only [hsubnormal, if_true, hbits]
    split
    · rfl
    · congr 1
      rw [hexponent, hsubnormal]
      rfl
  · have hbits : (Binary.ofBits x.toBits).significand = 2 ^ 52 + x.toBits.toNat % 2 ^ 52 ∧
        (Binary.ofBits x.toBits).exponent =
          ((x.toBits.toNat / 2 ^ 52 % 2 ^ 11 : Nat) : Int) - 1075 := by
      simp only [Binary.ofBits, Nat.pow_eq, hsubnormal, if_false]
      exact ⟨trivial, rfl⟩
    rw [if_neg hsubnormal, dif_neg (by omega)]
    congr 1
    · rw [toNat_leadingBit, hbits.1]
    · rw [hexponent, hbits.2]
      rfl

/-- The magnitude in the bits of a finite value is in canonical form. -/
theorem canonical_ofBits {x : Float} (hfinite : x.isFinite = true)
    (hpositive : 0 < (Binary.ofBits x.toBits).significand) : (Binary.ofBits x.toBits).Canonical := by
  have hexponent := exponentBits_lt hfinite
  by_cases hsubnormal : x.toBits.toNat / 2 ^ 52 % 2 ^ 11 = 0
  · have hbits : Binary.ofBits x.toBits = ⟨x.toBits.toNat % 2 ^ 52, -1074, false⟩ := by
      simp only [Binary.ofBits, Nat.pow_eq, hsubnormal, if_true]
    rw [hbits] at hpositive ⊢
    refine ⟨hpositive, ?_, by simp, by simp, .inr rfl, by simp⟩
    have := Nat.mod_lt x.toBits.toNat (show 0 < 2 ^ 52 by decide)
    simp only
    omega
  · have hbits : Binary.ofBits x.toBits = ⟨2 ^ 52 + x.toBits.toNat % 2 ^ 52,
        ((x.toBits.toNat / 2 ^ 52 % 2 ^ 11 : Nat) : Int) - 1075,
        x.toBits.toNat % 2 ^ 52 == 0 && decide (x.toBits.toNat / 2 ^ 52 % 2 ^ 11 > 1)⟩ := by
      simp only [Binary.ofBits, Nat.pow_eq, hsubnormal, if_false]
      rfl
    rw [hbits] at hpositive ⊢
    refine ⟨hpositive, ?_, ?_, ?_, .inl ?_, ?_⟩
    · simp only
      omega
    · simp only
      omega
    · simp only
      omega
    · simp only
      omega
    · simp only [Bool.and_eq_true, beq_iff_eq, decide_eq_true_eq]
      omega

/-- A value is packed from what it is unpacked to. -/
theorem ofModel_pack_unpack (x : Float) : Float.ofModel (Float.Model.pack x.toModel.unpack) = x :=
  Float.ofBits_toBits x

/-- A magnitude in canonical form is kept in the bits as it is. -/
theorem unpack_pack {x : Binary} (hx : x.Canonical) (sign : Sign) :
    (Float.Model.pack (.finite sign x.significand x.exponent hx.positive)).unpack =
      .finite sign x.significand x.exponent hx.positive := by
  have hbounded := hx.bounded
  have hleast := hx.least
  have hgreatest := hx.greatest
  have hbias : ((Format.binary64.exponentBias : Nat) : Int) = 1023 := rfl
  change UnpackedFloat.unpack Format.binary64 (UnpackedFloat.pack Format.binary64 _) = _
  rw [UnpackedFloat.pack]
  simp only [hbias, Format.mantissaBits]
  rw [if_neg (by omega)]
  by_cases hnormal : 2 ^ 52 ≤ x.significand
  · have hlog : x.significand.log2 = 52 := (Nat.log2_eq_iff (by omega)).mpr ⟨hnormal, hbounded⟩
    have hexponent : (BitVec.ofNat 11 (x.exponent + 1023 + 52).toNat).toNat =
        (x.exponent + 1075).toNat := by
      rw [BitVec.toNat_ofNat, Nat.mod_eq_of_lt (by omega)]
      omega
    have hlast : BitVec.ofNat 11 (x.exponent + 1023 + 52).toNat ≠ -1#11 := by
      rw [ne_eq, ← BitVec.toNat_inj, hexponent]
      have hvalue : (-1#11).toNat = 2047 := rfl
      omega
    have hzero : BitVec.ofNat 11 (x.exponent + 1023 + 52).toNat ≠ 0#11 := by
      rw [ne_eq, ← BitVec.toNat_inj, hexponent]
      have hvalue : (0#11).toNat = 0 := rfl
      omega
    have hmantissa : (1#1 ++ BitVec.ofNat 52 x.significand).toNat = x.significand := by
      rw [BitVec.toNat_append, ← Nat.shiftLeft_add_eq_or_of_lt (BitVec.isLt _),
        BitVec.toNat_ofNat]
      change 2 ^ 52 + x.significand % 2 ^ 52 = x.significand
      omega
    rw [if_pos (by omega), UnpackedFloat.unpack]
    simp only [unpackExponent_packComponents, unpackMantissa_packComponents,
      unpackSign_packComponents, Sign.ofBitVec_toBitVec, hbias, Nat.cast_ofNat]
    rw [if_neg hlast, if_neg hzero]
    congr 1
    rw [hexponent]
    omega
  · have hsubnormal := hx.normal.resolve_left hnormal
    have hpositive := hx.positive
    have hlog : x.significand.log2 < 52 := (Nat.log2_lt (by omega)).mpr (by omega)
    have hmantissa : (BitVec.ofNat 52 x.significand).toNat = x.significand := by
      rw [BitVec.toNat_ofNat, Nat.mod_eq_of_lt (by omega)]
    have hsome : BitVec.ofNat 52 x.significand ≠ 0#52 := by
      rw [ne_eq, ← BitVec.toNat_inj, hmantissa]
      exact hpositive.ne'
    rw [if_neg (by omega), UnpackedFloat.unpack]
    simp only [unpackExponent_packComponents, unpackMantissa_packComponents,
      unpackSign_packComponents, Sign.ofBitVec_toBitVec, hbias, Nat.cast_ofNat]
    rw [if_neg (by decide), if_pos trivial, dif_neg hsome]
    congr 1
    rw [hsubnormal]
    rfl

/-! ## Exact results -/

/-- A magnitude covers itself. -/
theorem Binary.covers_self (x : Binary) : x.Covers (x.significand * 2 ^ x.exponent) := by
  have hunits : (x.significand * 2 ^ x.exponent : ℚ) / 2 ^ x.exponent = x.significand :=
    mul_div_cancel_right₀ _ (zpow_pos two_pos _).ne'
  have hwidth : 0 < (if x.narrowBelow then 1 else 2 : ℚ) := by split <;> norm_num
  refine ⟨?_, ?_, ?_⟩
  · rw [hunits]
    linarith
  · rw [hunits]
    linarith
  · rw [hunits]
    rintro (h | h) <;> linarith

/-- A magnitude is rounded to itself, however it is written. -/
theorem round_of_value {x : Binary} (hx : x.Canonical) (sign : Sign) {m : Nat} {e : Int}
    (hm : 0 < m) (hleast : -1074 ≤ e)
    (hvalue : (m * 2 ^ e : ℚ) = x.significand * 2 ^ x.exponent) :
    UnpackedFloat.round Format.binary64 sign m e =
      .finite sign x.significand x.exponent hx.positive := by
  have hcovers := x.covers_self
  rw [← hvalue] at hcovers
  obtain ⟨n, hn⟩ : ∃ n, (e - targetOf m e).toNat = n := ⟨_, rfl⟩
  have htarget : targetOf m e = max (m.log2 + e - 52 : Int) (-1074) := rfl
  have hexact : Approximates (m <<< n) .exact ((m * 2 ^ e : ℚ) / 2 ^ (e - n)) := by
    have hshift : (m * 2 ^ e : ℚ) = (m <<< n : ℕ) * 2 ^ (e - n) := by
      rw [Nat.shiftLeft_eq, Nat.cast_mul, Nat.cast_pow, Nat.cast_two, mul_assoc, ← zpow_natCast,
        ← zpow_add₀ two_ne_zero]
      congr 2
      omega
    exact (div_eq_iff (zpow_pos two_pos _).ne').mpr hshift
  have hdigits : 52 ≤ (m <<< n).log2 ∨ e - n = -1074 := by
    by_cases hfew : m.log2 + n < 52
    · right
      omega
    · left
      have hlow : 2 ^ 52 ≤ m <<< n := by
        rw [Nat.shiftLeft_eq]
        calc 2 ^ 52 ≤ 2 ^ (m.log2 + n) := Nat.pow_le_pow_right (by decide) (by omega)
          _ = 2 ^ m.log2 * 2 ^ n := Nat.pow_add ..
          _ ≤ m * 2 ^ n := Nat.mul_le_mul_right _ (Nat.log2_self_le hm.ne')
      exact (Nat.le_log2 (Nat.ne_of_gt (Nat.lt_of_lt_of_le (by decide) hlow))).mpr hlow
  simp only [UnpackedFloat.round, targetExponent_eq, decreaseExponent, hn]
  exact roundWithAccuracy_of_covers hx sign hcovers hexact hdigits

/-- The exact product is rounded to the magnitude that covers it. -/
theorem mul_of_covers {x : Binary} (hx : x.Canonical) {m₁ m₂ : Nat} {e₁ e₂ : Int}
    {h₁ : 0 < m₁} {h₂ : 0 < m₂} (hdigits : 52 ≤ (m₁ * m₂).log2)
    (hcovers : x.Covers (m₁ * 2 ^ e₁ * (m₂ * 2 ^ e₂))) :
    mul Format.binary64 (.finite .positive m₁ e₁ h₁) (.finite .positive m₂ e₂ h₂) =
      .finite .positive x.significand x.exponent hx.positive := by
  refine roundWithAccuracy_of_covers hx _ hcovers ?_ (.inl hdigits)
  have hexact : (m₁ * 2 ^ e₁ * (m₂ * 2 ^ e₂) : ℚ) / 2 ^ (e₁ + e₂) = (m₁ * m₂ : ℕ) := by
    rw [zpow_add₀ two_ne_zero, div_eq_iff (mul_pos (zpow_pos two_pos _) (zpow_pos two_pos _)).ne']
    push_cast
    ring
  exact hexact

/-- The remainder of a division says how the quotient goes on. -/
theorem approximates_div (n : Nat) {d : Nat} (hd : 0 < d) :
    Approximates (n / d) (accuracyOfFraction (n % d) d) ((n : ℚ) / d) := by
  have hpositive : (0 : ℚ) < d := by exact_mod_cast hd
  have hrest : ((n % d : ℕ) : ℚ) < d := by exact_mod_cast Nat.mod_lt n hd
  have hvalue : (n : ℚ) / d = (n / d : ℕ) + ((n % d : ℕ) : ℚ) / d := by
    rw [eq_comm, ← mul_left_inj' hpositive.ne', add_mul, div_mul_cancel₀ _ hpositive.ne',
      div_mul_cancel₀ _ hpositive.ne']
    exact_mod_cast Nat.div_add_mod' n d
  rw [hvalue, accuracyOfFraction]
  have hlt : ((n % d : ℕ) : ℚ) / d < 1 := (div_lt_one hpositive).mpr hrest
  split
  · rename_i hzero
    simp [hzero, Approximates]
  · rename_i hne
    have hsome : 0 < ((n % d : ℕ) : ℚ) / d :=
      div_pos (by exact_mod_cast Nat.pos_of_ne_zero hne) hpositive
    rcases hcompare : compare (2 * (n % d)) d with _ | _ | _
    · have hhalf : 2 * ((n % d : ℕ) : ℚ) < d := by
        exact_mod_cast Nat.compare_eq_lt.mp hcompare
      have : ((n % d : ℕ) : ℚ) / d < 1 / 2 := by
        rw [div_lt_iff₀ hpositive]
        linarith
      exact ⟨by linarith, by linarith⟩
    · have hhalf : 2 * ((n % d : ℕ) : ℚ) = d := by
        exact_mod_cast Nat.compare_eq_eq.mp hcompare
      have : ((n % d : ℕ) : ℚ) / d = 1 / 2 := by
        rw [div_eq_iff hpositive.ne']
        linarith
      simp only [Approximates, this]
    · have hhalf : (d : ℚ) < 2 * ((n % d : ℕ) : ℚ) := by
        exact_mod_cast Nat.compare_eq_gt.mp hcompare
      have : 1 / 2 < ((n % d : ℕ) : ℚ) / d := by
        rw [lt_div_iff₀ hpositive]
        linarith
      exact ⟨by linarith, by linarith⟩

/-- The exact quotient is rounded to the magnitude that covers it. -/
theorem div_of_covers {x : Binary} (hx : x.Canonical) {s₁ s₂ : Sign} {m₁ m₂ : Nat} {e₁ e₂ : Int}
    {h₁ : 0 < m₁} {h₂ : 0 < m₂} (hleast : -1074 ≤ e₁ - e₂)
    (hcovers : x.Covers (m₁ * 2 ^ e₁ / (m₂ * 2 ^ e₂))) :
    div Format.binary64 (.finite s₁ m₁ e₁ h₁) (.finite s₂ m₂ e₂ h₂) =
      .finite (s₁ / s₂) x.significand x.exponent hx.positive := by
  set t := min (e₁ - e₂)
    (Format.binary64.targetExponent (totalExponent m₁ e₁ - totalExponent m₂ e₂)) with ht
  have hle : t ≤ e₁ - e₂ := min_le_left _ _
  have htarget : Format.binary64.targetExponent (totalExponent m₁ e₁ - totalExponent m₂ e₂) =
      max (m₁.log2 + e₁ - m₂.log2 - e₂ - 53 : Int) (-1074) := by
    simp only [Format.targetExponent, totalExponent, Format.mantissaBits, Format.minExponent]
    norm_num
    omega
  obtain ⟨n, hn⟩ := Int.eq_ofNat_of_zero_le (sub_nonneg.mpr hle)
  have hamount : (e₁ - e₂ - t).toNat = n := by omega
  have hcore : divCore Format.binary64 m₁ e₁ m₂ e₂ =
      ((m₁ <<< n) / m₂, t, accuracyOfFraction ((m₁ <<< n) % m₂) m₂) := by
    simp only [divCore, ← ht, hamount]
  have hquotient : (m₁ * 2 ^ e₁ / (m₂ * 2 ^ e₂) : ℚ) / 2 ^ t = ((m₁ <<< n : ℕ) : ℚ) / m₂ := by
    have hexponent : e₁ = e₂ + t + n := by omega
    have hpositive : (m₂ : ℚ) ≠ 0 := by exact_mod_cast h₂.ne'
    rw [Nat.shiftLeft_eq, hexponent, zpow_add₀ two_ne_zero, zpow_add₀ two_ne_zero, zpow_natCast]
    have : (2 : ℚ) ^ e₂ ≠ 0 := zpow_ne_zero e₂ two_ne_zero
    have : (2 : ℚ) ^ t ≠ 0 := zpow_ne_zero t two_ne_zero
    push_cast
    field_simp
  have hdigits : 52 ≤ ((m₁ <<< n) / m₂).log2 ∨ t = -1074 := by
    by_cases hleast' : t = -1074
    · exact .inr hleast'
    · left
      have hshift : m₂.log2 + 53 ≤ m₁.log2 + n := by omega
      have hquotient : 2 ^ 52 ≤ (m₁ <<< n) / m₂ := by
        rw [Nat.le_div_iff_mul_le h₂, Nat.shiftLeft_eq]
        calc 2 ^ 52 * m₂ ≤ 2 ^ 52 * 2 ^ (m₂.log2 + 1) :=
              Nat.mul_le_mul_left _ (Nat.le_of_lt Nat.lt_log2_self)
          _ = 2 ^ (m₂.log2 + 53) := by rw [← Nat.pow_add]; congr 1; omega
          _ ≤ 2 ^ (m₁.log2 + n) := Nat.pow_le_pow_right (by decide) hshift
          _ = 2 ^ m₁.log2 * 2 ^ n := Nat.pow_add ..
          _ ≤ m₁ * 2 ^ n := Nat.mul_le_mul_right _ (Nat.log2_self_le h₁.ne')
      exact (Nat.le_log2 (by omega)).mpr hquotient
  have happrox := approximates_div (m₁ <<< n) h₂
  rw [← hquotient] at happrox
  rw [UnpackedFloat.div, hcore]
  exact roundWithAccuracy_of_covers hx _ hcovers happrox hdigits

/-! ## Decimals -/

def Binary.float {x : Binary} (hx : x.Canonical) (sign : Sign) : Float :=
  .ofModel (.pack (.finite sign x.significand x.exponent hx.positive))

theorem Binary.neg_float {x : Binary} (hx : x.Canonical) :
    -Binary.float hx .positive = Binary.float hx .negative := by
  change Float.ofModel (Float.Model.pack (Float.Model.unpack (.pack _)).neg) = _
  rw [unpack_pack hx]
  rfl

/-- A decimal is computed exactly and then rounded. -/
theorem unpacked_ofScientific {x : Binary} (hx : x.Canonical) {n : Nat} {e : Int} (hn : 0 < n)
    (hleast : -(2048 + n.log2 : Int) ≤ e) (hgreatest : e ≤ 2048)
    (hcovers : x.Covers (n * 10 ^ e)) :
    UnpackedFloat.ofScientific Format.binary64 n e =
      .finite .positive x.significand x.exponent hx.positive := by
  have hpower : (2 ^ Format.binary64.exponentBits : Int) = 2048 := by norm_num
  rw [UnpackedFloat.ofScientific, dif_neg hn.ne', hpower, if_neg (by omega), if_neg (by omega)]
  split
  · rename_i hpositive
    have hdigits : 52 ≤ (n <<< 53 * 10 ^ e.toNat).log2 := by
      have hlow : 2 ^ 52 ≤ n <<< 53 * 10 ^ e.toNat := by
        rw [Nat.shiftLeft_eq]
        calc 2 ^ 52 ≤ 1 * 2 ^ 53 * 1 := by omega
          _ ≤ n * 2 ^ 53 * 10 ^ e.toNat :=
            Nat.mul_le_mul (Nat.mul_le_mul_right _ hn) (Nat.pow_pos (by decide))
      exact (Nat.le_log2 (Nat.ne_of_gt (Nat.lt_of_lt_of_le (by decide) hlow))).mpr hlow
    have hvalue : ((n <<< 53 : ℕ) : ℚ) * 2 ^ (-53 : Int) *
        (((10 ^ e.toNat : ℕ) : ℚ) * 2 ^ (0 : Int)) = n * 10 ^ e := by
      have hexponent : (10 : ℚ) ^ e = 10 ^ e.toNat := by
        rw [← zpow_natCast, Int.toNat_of_nonneg hpositive]
      rw [hexponent, Nat.shiftLeft_eq]
      push_cast
      norm_num
      ring
    exact mul_of_covers hx hdigits (hvalue.symm ▸ hcovers)
  · rename_i hnegative
    have hvalue : (n : ℚ) * 2 ^ (0 : Int) / (((10 ^ (-e).toNat : ℕ) : ℚ) * 2 ^ (0 : Int)) =
        n * 10 ^ e := by
      have hexponent : (10 : ℚ) ^ e = (10 ^ (-e).toNat)⁻¹ := by
        rw [← zpow_natCast, Int.toNat_of_nonneg (by omega), ← zpow_neg, neg_neg]
      rw [hexponent, zpow_zero, mul_one, mul_one, div_eq_mul_inv]
      push_cast
      rfl
    exact div_of_covers hx (by norm_num) (hvalue.symm ▸ hcovers)

/-- The magnitude of a natural number that fits the significand. -/
def Binary.ofNat (n : Nat) : Binary :=
  ⟨n <<< (52 - n.log2), (n.log2 : Int) - 52, n <<< (52 - n.log2) == 2 ^ 52⟩

theorem Binary.value_ofNat {n : Nat} (hn : 0 < n) (hsmall : n < 2 ^ 53) :
    ((Binary.ofNat n).significand : ℚ) * 2 ^ (Binary.ofNat n).exponent = n := by
  have hlog : n.log2 ≤ 52 := Nat.le_of_lt_succ ((Nat.log2_lt hn.ne').mpr hsmall)
  have hexponent : (n.log2 : Int) - 52 = -((52 - n.log2 : ℕ) : Int) := by omega
  simp only [Binary.ofNat, hexponent, Nat.shiftLeft_eq]
  push_cast
  rw [zpow_neg, zpow_natCast, mul_assoc, mul_inv_cancel₀ (by positivity), mul_one]

theorem Binary.canonical_ofNat {n : Nat} (hn : 0 < n) (hsmall : n < 2 ^ 53) :
    (Binary.ofNat n).Canonical := by
  have hlog : n.log2 ≤ 52 := Nat.le_of_lt_succ ((Nat.log2_lt hn.ne').mpr hsmall)
  have hlow : 2 ^ 52 ≤ n <<< (52 - n.log2) := by
    rw [Nat.shiftLeft_eq]
    calc 2 ^ 52 = 2 ^ n.log2 * 2 ^ (52 - n.log2) := by rw [← Nat.pow_add]; congr 1; omega
      _ ≤ n * 2 ^ (52 - n.log2) := Nat.mul_le_mul_right _ (Nat.log2_self_le hn.ne')
  have hhigh : n <<< (52 - n.log2) < 2 ^ 53 := by
    rw [Nat.shiftLeft_eq]
    calc n * 2 ^ (52 - n.log2) < 2 ^ (n.log2 + 1) * 2 ^ (52 - n.log2) :=
          Nat.mul_lt_mul_of_pos_right Nat.lt_log2_self (Nat.two_pow_pos _)
      _ = 2 ^ 53 := by rw [← Nat.pow_add]; congr 1; omega
  refine ⟨?_, hhigh, ?_, ?_, .inl hlow, ?_⟩
  · simp only [Binary.ofNat]
    omega
  · simp only [Binary.ofNat]
    omega
  · simp only [Binary.ofNat]
    omega
  · simp only [Binary.ofNat, beq_iff_eq]
    omega

/-- A natural number that fits the significand is kept as it is. -/
theorem toFloat_toUInt64 {n : Nat} (hn : 0 < n) (hsmall : n < 2 ^ 53) :
    n.toUInt64.toFloat = Binary.float (Binary.canonical_ofNat hn hsmall) .positive := by
  have hword : n.toUInt64.toNat = n := by
    rw [Nat.toUInt64, UInt64.toNat_ofNat', Nat.mod_eq_of_lt (Nat.lt_trans hsmall (by decide))]
  have hround : UnpackedFloat.ofUInt64 Format.binary64 n.toUInt64 =
      UnpackedFloat.round Format.binary64 .positive n 0 := by
    have hcompare : compare (n : Int) 0 = .gt := Int.compare_eq_gt.mpr (by omega)
    simp only [UnpackedFloat.ofUInt64, UnpackedFloat.ofNat, UnpackedFloat.ofInt,
      UnpackedFloat.normalize, hword, hcompare, Int.toNat_natCast]
  have hcanonical := Binary.canonical_ofNat hn hsmall
  have hvalue : (n * 2 ^ (0 : Int) : ℚ) =
      (Binary.ofNat n).significand * 2 ^ (Binary.ofNat n).exponent := by
    rw [Binary.value_ofNat hn hsmall, zpow_zero, mul_one]
  change Float.ofModel (.pack (UnpackedFloat.ofUInt64 _ _)) = _
  rw [hround, round_of_value hcanonical .positive hn (by decide) hvalue]
  rfl

/-! ## Small decimals -/

/-- Is the value this power of ten, with a full significand? -/
def isPowerOfTen (e : Nat) (x : Float) : Bool :=
  match x.toModel.unpack with
  | .finite .positive m exponent _ =>
      2 ^ 52 ≤ m && -60 ≤ exponent && exponent ≤ 60 &&
        m * 2 ^ exponent.toNat == 10 ^ e * 2 ^ (-exponent).toNat
  | _ => false

theorem isPowerOfTen_exactlyRepresentable :
    ∀ e : Fin Float.exactlyRepresentablePowersOfTen.size,
      isPowerOfTen e Float.exactlyRepresentablePowersOfTen[e] = true := by
  decide +kernel

theorem unpack_of_isPowerOfTen {e : Nat} {x : Float} (hx : isPowerOfTen e x = true) :
    ∃ m exponent h, x.toModel.unpack = .finite .positive m exponent h ∧ 2 ^ 52 ≤ m ∧
      (-60 ≤ exponent ∧ exponent ≤ 60) ∧ (m * 2 ^ exponent : ℚ) = 10 ^ e := by
  rw [isPowerOfTen] at hx
  split at hx
  · rename_i m exponent hpositive hunpack
    simp only [Bool.and_eq_true, decide_eq_true_eq, beq_iff_eq] at hx
    obtain ⟨⟨⟨hfull, hleast⟩, hgreatest⟩, hvalue⟩ := hx
    refine ⟨m, exponent, hpositive, hunpack, hfull, ⟨hleast, hgreatest⟩, ?_⟩
    have hscaled : (m * 2 ^ exponent.toNat : ℚ) = 10 ^ e * 2 ^ (-exponent).toNat := by
      exact_mod_cast hvalue
    rw [← zpow_mul_pow_toNat (by norm_num : (2 : ℚ) ≠ 0), ← mul_assoc] at hscaled
    exact mul_right_cancel₀ (by positivity) hscaled
  · cases hx

theorem ten_zpow_of_neg {e : Int} (he : e < 0) : (10 : ℚ) ^ e = (10 ^ e.natAbs)⁻¹ := by
  rw [← zpow_natCast, ← zpow_neg]
  congr 1
  omega

theorem ten_zpow_of_nonneg {e : Int} (he : 0 ≤ e) : (10 : ℚ) ^ e = 10 ^ e.natAbs := by
  rw [← zpow_natCast]
  congr 1
  omega

/-- An exponent is known from its sign and its size. -/
theorem exponent_eq (e : Int) :
    (if decide (e < 0) = true then Int.negOfNat e.natAbs else Int.ofNat e.natAbs) = e := by
  rcases lt_or_ge e 0 with hnegative | hpositive
  · rw [if_pos (decide_eq_true hnegative), Int.negOfNat_eq, Int.ofNat_eq_natCast]
    omega
  · rw [if_neg (by simpa using hpositive)]
    exact Int.natAbs_of_nonneg hpositive

/-- A decimal with few digits and a small power of ten is one exact product or quotient. -/
theorem ofScientific_of_covers {x : Binary} (hx : x.Canonical) {n : Nat} {e : Int} (hn : 0 < n)
    (hleast : -(2048 + n.log2 : Int) ≤ e) (hgreatest : e ≤ 2048)
    (hcovers : x.Covers (n * 10 ^ e)) :
    Float.ofScientific n (e < 0) e.natAbs = Binary.float hx .positive := by
  rw [Float.ofScientific]
  split
  · rename_i hsmall
    obtain ⟨hn', he'⟩ := hsmall
    have hindex : e.natAbs < Float.exactlyRepresentablePowersOfTen.size :=
      Nat.lt_of_le_of_lt he' (by decide)
    obtain ⟨m, exponent, h, hpower, hfull, ⟨hlow, hhigh⟩, hten⟩ :=
      unpack_of_isPowerOfTen (isPowerOfTen_exactlyRepresentable ⟨e.natAbs, hindex⟩)
    rw [Fin.getElem_fin] at hpower
    have hcanonical := Binary.canonical_ofNat hn hn'
    have hvalue := Binary.value_ofNat hn hn'
    dsimp only
    rw [toFloat_toUInt64 hn hn']
    split
    · rename_i hnegative
      have hquotient : ((Binary.ofNat n).significand * 2 ^ (Binary.ofNat n).exponent /
          (m * 2 ^ exponent) : ℚ) = n * 10 ^ e := by
        rw [hvalue, hten, ten_zpow_of_neg (of_decide_eq_true hnegative), div_eq_mul_inv]
      have hdifference : -1074 ≤ (Binary.ofNat n).exponent - exponent := by
        simp only [Binary.ofNat]
        omega
      change Float.ofModel (.pack (UnpackedFloat.div _ (Float.Model.unpack (.pack _)) _)) = _
      rw [unpack_pack hcanonical, hpower]
      rw [div_of_covers hx hdifference (hquotient.symm ▸ hcovers)]
      rfl
    · rename_i hpositive
      have hproduct : ((Binary.ofNat n).significand * 2 ^ (Binary.ofNat n).exponent *
          (m * 2 ^ exponent) : ℚ) = n * 10 ^ e := by
        rw [hvalue, hten, ten_zpow_of_nonneg (not_lt.mp (by simpa using hpositive))]
      have hdigits : 52 ≤ ((Binary.ofNat n).significand * m).log2 := by
        have hlow : 2 ^ 52 ≤ (Binary.ofNat n).significand * m :=
          calc 2 ^ 52 = 1 * 2 ^ 52 := by omega
            _ ≤ (Binary.ofNat n).significand * m := Nat.mul_le_mul hcanonical.positive hfull
        exact (Nat.le_log2 (by omega)).mpr hlow
      change Float.ofModel (.pack (UnpackedFloat.mul _ (Float.Model.unpack (.pack _)) _)) = _
      rw [unpack_pack hcanonical, hpower]
      rw [mul_of_covers hx hdigits (hproduct.symm ▸ hcovers)]
      rfl
  · dsimp only
    rw [exponent_eq, Float.Model.ofScientific, unpacked_ofScientific hx hn hleast hgreatest hcovers]
    rfl

end DesktopTrial.Decimal
