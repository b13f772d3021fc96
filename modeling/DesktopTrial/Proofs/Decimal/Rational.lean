import DesktopTrial.Proofs.Decimal.Binary64

/-!
# Binary64 values as rational numbers

A finite value is a rational number.  Finite values are compared as the numbers that they are,
and an operation whose exact result is a multiple of a power of two, with a factor that fits the
significand, gives this result.
-/

namespace DesktopTrial.Decimal

open Float.Model Float.Model.UnpackedFloat

variable {x y : Float} {p q : ℚ} {sign : Sign} {e : Int}

/-! ## Finite values -/

def signed (sign : Sign) (p : ℚ) : ℚ :=
  match sign with
  | .negative => -p
  | .positive => p

theorem signed_neg (sign : Sign) (p : ℚ) : signed (-sign) p = -signed sign p := by
  cases sign with
  | negative => exact (neg_neg p).symm
  | positive => rfl

theorem abs_signed (sign : Sign) (p : ℚ) : |signed sign p| = |p| := by
  cases sign with
  | negative => exact abs_neg p
  | positive => rfl

theorem signed_div (sign : Sign) (p q : ℚ) : signed sign p / q = signed sign (p / q) := by
  cases sign with
  | negative => exact neg_div q p
  | positive => rfl

theorem signed_mul (sign : Sign) (p q : ℚ) : signed sign (p * q) = signed sign p * q := by
  cases sign with
  | negative => exact (neg_mul p q).symm
  | positive => rfl

theorem cast_apply (sign : Sign) (m : Nat) : ((sign.apply m : ℤ) : ℚ) = signed sign m := by
  cases sign with
  | negative => exact (Int.cast_neg _).trans (congrArg _ (Int.cast_natCast m))
  | positive => exact Int.cast_natCast m

/-- The rational number that a finite value is. -/
def rational? (x : Float) : Option ℚ :=
  match x.toModel.unpack with
  | .zero _ => some 0
  | .finite sign m e _ => some (signed sign (m * 2 ^ e))
  | _ => none

theorem rational?_zero (sign : Sign) : rational? (.ofModel (.pack (.zero sign))) = some 0 := by
  cases sign <;> rfl

theorem rational?_float {b : Binary} (hb : b.Canonical) (sign : Sign) :
    rational? (Binary.float hb sign) = some (signed sign (b.significand * 2 ^ b.exponent)) := by
  have hunpack : (Binary.float hb sign).toModel.unpack = _ := unpack_pack hb sign
  rw [rational?, hunpack]

theorem isFinite_of_rational? (hx : rational? x = some p) : x.isFinite = true := by
  change x.toModel.unpack.isFinite = true
  rw [rational?] at hx
  cases hunpack : x.toModel.unpack with
  | zero sign => rfl
  | finite sign m e hpositive => rfl
  | infinity sign =>
      rw [hunpack] at hx
      cases hx
  | notANumber =>
      rw [hunpack] at hx
      cases hx

/-- A value that is a number is a zero, or a sign and a magnitude. -/
theorem unpack_of_rational? (hx : rational? x = some p) :
    (∃ sign, x.toModel.unpack = .zero sign ∧ p = 0) ∨
      ∃ (b : Binary) (hb : b.Canonical) (sign : Sign),
        x.toModel.unpack = .finite sign b.significand b.exponent hb.positive ∧
          p = signed sign (b.significand * 2 ^ b.exponent) := by
  have hfinite := isFinite_of_rational? hx
  have hunpack := unpack_toModel hfinite
  rw [rational?, hunpack] at hx
  by_cases hzero : (Binary.ofBits x.toBits).significand = 0
  · rw [dif_pos hzero] at hunpack hx
    exact .inl ⟨_, hunpack, (Option.some.inj hx).symm⟩
  · rw [dif_neg hzero] at hunpack hx
    exact .inr ⟨_, canonical_ofBits hfinite (Nat.pos_of_ne_zero hzero), _, hunpack,
      (Option.some.inj hx).symm⟩

theorem magnitude_pos {m : Nat} (hm : 0 < m) (e : Int) : (0 : ℚ) < m * 2 ^ e :=
  mul_pos (Nat.cast_pos.mpr hm) (zpow_pos two_pos e)

theorem rational?_abs (hx : rational? x = some p) : rational? x.abs = some |p| := by
  change rational? (.ofModel (.pack x.toModel.unpack.abs)) = _
  obtain ⟨sign, hunpack, rfl⟩ | ⟨b, hb, sign, hunpack, rfl⟩ := unpack_of_rational? hx
  · rw [hunpack, abs_zero]
    exact rational?_zero .positive
  · rw [hunpack, abs_signed, abs_of_pos (magnitude_pos hb.positive _)]
    exact rational?_float hb .positive

/-! ## Comparisons -/

/-- A magnitude with a smaller exponent is smaller. -/
theorem Binary.Canonical.lt_of_exponent_lt {a b : Binary} (ha : a.Canonical) (hb : b.Canonical)
    (hlt : a.exponent < b.exponent) :
    (a.significand * 2 ^ a.exponent : ℚ) < b.significand * 2 ^ b.exponent := by
  have hnormal : 2 ^ 52 ≤ b.significand :=
    hb.normal.resolve_right fun hleast => by have := ha.least; omega
  have hless : (a.significand : ℚ) < 2 ^ 53 := by exact_mod_cast ha.bounded
  have hmore : (2 ^ 52 : ℚ) ≤ b.significand := by exact_mod_cast hnormal
  have hstep : (2 ^ (a.exponent + 1) : ℚ) ≤ 2 ^ b.exponent :=
    zpow_le_zpow_right₀ (by norm_num) hlt
  have hdouble : (2 ^ (a.exponent + 1) : ℚ) = 2 * 2 ^ a.exponent := by
    rw [zpow_add₀ two_ne_zero, zpow_one, mul_comm]
  calc (a.significand * 2 ^ a.exponent : ℚ) < 2 ^ 53 * 2 ^ a.exponent :=
        mul_lt_mul_of_pos_right hless (zpow_pos two_pos _)
    _ = 2 ^ 52 * 2 ^ (a.exponent + 1) := by rw [hdouble]; ring
    _ ≤ b.significand * 2 ^ b.exponent :=
        mul_le_mul hmore hstep (zpow_pos two_pos _).le (Nat.cast_nonneg _)

/-- Magnitudes are compared by their exponents and then by their significands. -/
theorem Binary.Canonical.compare_eq {a b : Binary} (ha : a.Canonical) (hb : b.Canonical) :
    (compare a.exponent b.exponent).then (compare a.significand b.significand) =
      compare (a.significand * 2 ^ a.exponent : ℚ) (b.significand * 2 ^ b.exponent) := by
  rcases lt_trichotomy a.exponent b.exponent with hlt | heq | hgt
  · rw [compare_lt_iff_lt.mpr hlt, compare_lt_iff_lt.mpr (ha.lt_of_exponent_lt hb hlt)]
    rfl
  · rw [compare_eq_iff_eq.mpr heq, heq, Ordering.eq_then]
    rcases lt_trichotomy a.significand b.significand with hlt | heq | hgt
    · rw [compare_lt_iff_lt.mpr hlt, compare_lt_iff_lt.mpr]
      exact mul_lt_mul_of_pos_right (by exact_mod_cast hlt) (zpow_pos two_pos _)
    · rw [compare_eq_iff_eq.mpr heq, compare_eq_iff_eq.mpr (by rw [heq])]
    · rw [compare_gt_iff_gt.mpr hgt, compare_gt_iff_gt.mpr]
      exact mul_lt_mul_of_pos_right (by exact_mod_cast hgt) (zpow_pos two_pos _)
  · rw [compare_gt_iff_gt.mpr hgt, compare_gt_iff_gt.mpr (hb.lt_of_exponent_lt ha hgt)]
    rfl

theorem compare_neg (p q : ℚ) : compare (-p) (-q) = (compare p q).swap := by
  rcases lt_trichotomy p q with hlt | rfl | hgt
  · rw [compare_lt_iff_lt.mpr hlt, compare_gt_iff_gt.mpr (neg_lt_neg hlt)]
    rfl
  · rw [compare_eq_iff_eq.mpr rfl, compare_eq_iff_eq.mpr rfl]
    rfl
  · rw [compare_gt_iff_gt.mpr hgt, compare_lt_iff_lt.mpr (neg_lt_neg hgt)]
    rfl

/-- Numbers with a sign are compared by their signs first. -/
theorem compare_signed (hp : 0 < p) (hq : 0 < q) (s t : Sign) :
    compare (signed s p) (signed t q) =
      match s, t with
      | .negative, .negative => (compare p q).swap
      | .negative, .positive => .lt
      | .positive, .negative => .gt
      | .positive, .positive => compare p q := by
  cases s with
  | negative =>
      cases t with
      | negative => exact compare_neg p q
      | positive => exact compare_lt_iff_lt.mpr ((neg_lt_zero.mpr hp).trans hq)
  | positive =>
      cases t with
      | negative => exact compare_gt_iff_gt.mpr ((neg_lt_zero.mpr hq).trans hp)
      | positive => rfl

theorem compare_zero_signed (hq : 0 < q) (t : Sign) :
    compare 0 (signed t q) = match t with | .negative => .gt | .positive => .lt := by
  cases t with
  | negative => exact compare_gt_iff_gt.mpr (neg_lt_zero.mpr hq)
  | positive => exact compare_lt_iff_lt.mpr hq

theorem compare_signed_zero (hp : 0 < p) (s : Sign) :
    compare (signed s p) 0 = match s with | .negative => .lt | .positive => .gt := by
  cases s with
  | negative => exact compare_lt_iff_lt.mpr (neg_lt_zero.mpr hp)
  | positive => exact compare_gt_iff_gt.mpr hp

/-- Finite values are compared as the numbers that they are. -/
theorem compare_unpack (hx : rational? x = some p) (hy : rational? y = some q) :
    x.toModel.unpack.compare y.toModel.unpack = some (compare p q) := by
  obtain ⟨s, hunpackX, rfl⟩ | ⟨a, ha, s, hunpackX, rfl⟩ := unpack_of_rational? hx <;>
    obtain ⟨t, hunpackY, rfl⟩ | ⟨b, hb, t, hunpackY, rfl⟩ := unpack_of_rational? hy <;>
    rw [hunpackX, hunpackY]
  · rfl
  · rw [compare_zero_signed (magnitude_pos hb.positive _)]
    cases t <;> rfl
  · rw [compare_signed_zero (magnitude_pos ha.positive _)]
    cases s <;> rfl
  · rw [compare_signed (magnitude_pos ha.positive _) (magnitude_pos hb.positive _),
      ← ha.compare_eq hb]
    cases s <;> cases t <;> rfl

/-- A finite value is tested for zero as the number that it is. -/
theorem beq_zero_iff (hx : rational? x = some p) : (x == 0) = true ↔ p = 0 := by
  have hzero : rational? 0 = some 0 := rfl
  change (x.toModel.unpack.compare (0 : Float).toModel.unpack == some .eq) = true ↔ _
  rw [compare_unpack hx hzero, beq_iff_eq, Option.some.injEq, compare_eq_iff_eq]

theorem lt_iff_of_rational? (hx : rational? x = some p) (hy : rational? y = some q) :
    x < y ↔ p < q := by
  change decide ((x.toModel.unpack.compare y.toModel.unpack == some .lt) = true) = true ↔ _
  rw [compare_unpack hx hy, decide_eq_true_iff, beq_iff_eq, Option.some.injEq, compare_lt_iff_lt]

/-! ## Exact results -/

/-- The number is a multiple of a power of two, with a factor that fits the significand. -/
structure Fits (k : ℤ) (j : Int) (p : ℚ) : Prop where
  small : |k| < 2 ^ 53
  least : -1022 < j
  greatest : j ≤ 971
  value : p = k * 2 ^ j

/-- A positive number that fits is a magnitude. -/
theorem exists_canonical {n : Nat} {j : Int} (hn : 0 < n) (hsmall : n < 2 ^ 53)
    (hleast : -1022 < j) (hgreatest : j ≤ 971) :
    ∃ b : Binary, b.Canonical ∧ (b.significand * 2 ^ b.exponent : ℚ) = n * 2 ^ j := by
  have hcanonical := Binary.canonical_ofNat hn hsmall
  have hlog : n.log2 ≤ 52 := Nat.le_of_lt_succ ((Nat.log2_lt hn.ne').mpr hsmall)
  have hexponent : (Binary.ofNat n).exponent = n.log2 - 52 := rfl
  refine ⟨{ Binary.ofNat n with exponent := (Binary.ofNat n).exponent + j }, ?_, ?_⟩
  · refine ⟨hcanonical.positive, hcanonical.bounded, ?_, ?_, .inl ?_, ?_⟩
    · simp only
      omega
    · simp only
      omega
    · exact hcanonical.normal.resolve_right (by omega)
    · simp only
      rw [hcanonical.narrow]
      omega
  · simp only
    rw [zpow_add₀ two_ne_zero, ← mul_assoc, Binary.value_ofNat hn hsmall]

/-- A number with a sign that fits is a magnitude with this sign. -/
theorem Fits.exists_canonical {k : ℤ} {j : Int} (hfits : Fits k j (signed sign p)) (hp : 0 < p) :
    ∃ b : Binary, b.Canonical ∧ (b.significand * 2 ^ b.exponent : ℚ) = p := by
  obtain ⟨hsmall, hleast, hgreatest, hvalue⟩ := hfits
  have hmagnitude : p = k.natAbs * 2 ^ j := by
    have habs : |signed sign p| = |(k : ℚ) * 2 ^ j| := congrArg _ hvalue
    have hpower : (0 : ℚ) < 2 ^ j := zpow_pos two_pos j
    rw [abs_signed, abs_of_pos hp, abs_mul, abs_of_pos hpower, ← Int.cast_abs,
      Int.abs_eq_natAbs, Int.cast_natCast] at habs
    exact habs
  have hpositive : 0 < k.natAbs := by
    rw [hmagnitude] at hp
    exact_mod_cast (mul_pos_iff_of_pos_right (zpow_pos two_pos j)).mp hp
  rw [Int.abs_eq_natAbs] at hsmall
  rw [hmagnitude]
  exact Decimal.exists_canonical hpositive (by omega) hleast hgreatest

theorem normalize_apply {m : Nat} (hm : 0 < m) (sign zeroSign : Sign) (e : Int) :
    UnpackedFloat.normalize Format.binary64 (sign.apply m) e zeroSign =
      UnpackedFloat.round Format.binary64 sign m e := by
  cases sign with
  | negative =>
      have hneg : compare (Sign.negative.apply m) 0 = .lt :=
        compare_lt_iff_lt.mpr (show -(m : ℤ) < 0 by omega)
      rw [UnpackedFloat.normalize, hneg]
      simp [Sign.apply]
  | positive =>
      have hpos : compare (Sign.positive.apply m) 0 = .gt :=
        compare_gt_iff_gt.mpr (show (0 : ℤ) < m by omega)
      rw [UnpackedFloat.normalize, hpos]
      simp [Sign.apply]

/-- A mantissa that stands for a number that fits is rounded to this number. -/
theorem rational?_normalize {k m : ℤ} {j : Int} (hfits : Fits k j p) (hexponent : -1074 ≤ e)
    (hvalue : (m * 2 ^ e : ℚ) = p) (zeroSign : Sign) :
    rational? (.ofModel (.pack (UnpackedFloat.normalize Format.binary64 m e zeroSign))) =
      some p := by
  obtain rfl | ⟨sign, n, hn, rfl⟩ : m = 0 ∨ ∃ (sign : Sign) (n : Nat), 0 < n ∧ m = sign.apply n := by
    rcases lt_trichotomy m 0 with hneg | hzero | hpos
    · exact .inr ⟨.negative, m.natAbs, by omega, by simp only [Sign.apply]; omega⟩
    · exact .inl hzero
    · exact .inr ⟨.positive, m.natAbs, by omega, by simp only [Sign.apply]; omega⟩
  · rw [← hvalue, Int.cast_zero, zero_mul]
    exact rational?_zero zeroSign
  · rw [cast_apply, ← signed_mul] at hvalue
    subst hvalue
    obtain ⟨b, hb, hsame⟩ := hfits.exists_canonical (magnitude_pos hn e)
    rw [normalize_apply hn, round_of_value hb sign hn hexponent hsame.symm, ← hsame]
    exact rational?_float hb sign

/-- Moving a mantissa to a smaller exponent keeps its value. -/
theorem decreaseExponent_value (m : Nat) {t : Int} (hle : t ≤ e) :
    ((decreaseExponent m e t).1 * 2 ^ t : ℚ) = m * 2 ^ e := by
  change ((m <<< (e - t).toNat : ℕ) * 2 ^ t : ℚ) = _
  rw [Nat.shiftLeft_eq, Nat.cast_mul, Nat.cast_pow, Nat.cast_two, mul_assoc, ← zpow_natCast,
    ← zpow_add₀ two_ne_zero]
  congr 2
  omega

/-- A difference that fits is exact. -/
theorem rational?_sub {k : ℤ} {j : Int} (hx : rational? x = some p) (hy : rational? y = some q)
    (hfits : Fits k j (p - q)) : rational? (x - y) = some (p - q) := by
  change rational? (.ofModel (.pack
    (UnpackedFloat.sub Format.binary64 x.toModel.unpack y.toModel.unpack))) = _
  obtain ⟨s, hunpack, rfl⟩ | ⟨a, ha, s, hunpack, rfl⟩ := unpack_of_rational? hx
  · rw [hunpack]
    obtain ⟨t, hunpack, rfl⟩ | ⟨b, hb, t, hunpack, rfl⟩ := unpack_of_rational? hy
    · rw [hunpack, sub_zero, UnpackedFloat.sub]
      split <;> exact rational?_zero _
    · rw [hunpack, zero_sub, ← signed_neg]
      exact rational?_float hb (-t)
  · rw [hunpack]
    obtain ⟨t, hunpack, rfl⟩ | ⟨b, hb, t, hunpack, rfl⟩ := unpack_of_rational? hy
    · rw [hunpack, sub_zero]
      exact rational?_float ha s
    · rw [hunpack]
      refine rational?_normalize hfits (e := min a.exponent b.exponent)
        (le_min ha.least hb.least) ?_ .positive
      rw [← decreaseExponent_value a.significand (min_le_left a.exponent b.exponent),
        ← decreaseExponent_value b.significand (min_le_right a.exponent b.exponent), signed_mul,
        signed_mul, ← sub_mul, ← cast_apply, ← cast_apply, ← Int.cast_sub]
      rfl

/-! ## Natural numbers -/

theorem ofNat_eq_float {n : Nat} (hn : 0 < n) (hsmall : n < 2 ^ 53) :
    Float.ofNat n = Binary.float (Binary.canonical_ofNat hn hsmall) .positive := by
  have hcovers := (Binary.ofNat n).covers_self
  rw [Binary.value_ofNat hn hsmall] at hcovers
  exact ofScientific_of_covers (Binary.canonical_ofNat hn hsmall) (e := 0) hn (by omega) (by decide)
    (by rw [zpow_zero, mul_one]; exact hcovers)

theorem rational?_ofNat {n : Nat} (hsmall : n < 2 ^ 53) :
    rational? (Float.ofNat n) = some (n : ℚ) := by
  rcases Nat.eq_zero_or_pos n with rfl | hn
  · rfl
  · rw [ofNat_eq_float hn hsmall, rational?_float, Binary.value_ofNat hn hsmall]
    rfl

/-- A quotient that fits is exact. -/
theorem rational?_div_ofNat {n : Nat} {k : ℤ} {j : Int} (hn : 0 < n) (hsmall : n < 2 ^ 53)
    (hx : rational? x = some p) (hfits : Fits k j (p / n)) :
    rational? (x / Float.ofNat n) = some (p / n) := by
  have hcanonical := Binary.canonical_ofNat hn hsmall
  have hvalue := Binary.value_ofNat hn hsmall
  have hdivisor : (Float.ofNat n).toModel.unpack =
      .finite .positive (Binary.ofNat n).significand (Binary.ofNat n).exponent
        hcanonical.positive := by
    rw [ofNat_eq_float hn hsmall]
    exact unpack_pack hcanonical .positive
  change rational? (.ofModel (.pack
    (UnpackedFloat.div Format.binary64 x.toModel.unpack (Float.ofNat n).toModel.unpack))) = _
  rw [hdivisor]
  obtain ⟨s, hunpack, rfl⟩ | ⟨a, ha, s, hunpack, rfl⟩ := unpack_of_rational? hx
  · rw [hunpack, zero_div]
    exact rational?_zero _
  · rw [signed_div] at hfits ⊢
    obtain ⟨b, hb, hsame⟩ := hfits.exists_canonical
      (div_pos (magnitude_pos ha.positive _) (Nat.cast_pos.mpr hn))
    have hexponent : -1074 ≤ a.exponent - (Binary.ofNat n).exponent := by
      have hlog : n.log2 ≤ 52 := Nat.le_of_lt_succ ((Nat.log2_lt hn.ne').mpr hsmall)
      have hleast := ha.least
      simp only [Binary.ofNat]
      omega
    have hcovers := b.covers_self
    rw [hsame, ← hvalue] at hcovers
    rw [hunpack, div_of_covers hb hexponent hcovers, ← hsame]
    cases s with
    | negative => exact rational?_float hb .negative
    | positive => exact rational?_float hb .positive

end DesktopTrial.Decimal
