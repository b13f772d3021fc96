import DesktopTrial.Check
import DesktopTrial.Proofs.Decimal.Rational

/-!
# The tolerance law of centering

A window is compared with the centered position in binary64 arithmetic.  For positions on the grid
of half pixels this arithmetic is exact, so that the comparison is a law of rational numbers: on
either axis the window may be off by less than the tolerance, or not at all.
-/

namespace DesktopTrial

open Decimal

variable {c : Centering} {b : Box} {x y : ℚ} {slack : ℤ}

/-- The top left corner of the box is at these exact coordinates. -/
structure Box.StandsAt (b : Box) (x y : ℚ) : Prop where
  left : rational? b.x = some x
  top : rational? b.y = some y

/-- A multiple of one half, of magnitude at most 2 ^ 40. -/
structure OnGrid (x : ℚ) : Prop where
  half : ∃ k : ℤ, 2 * x = k
  near : |x| ≤ 2 ^ 40

namespace Centering

def slackX (c : Centering) : ℤ := c.viewport.width.toNat - c.window.width.toNat

def slackY (c : Centering) : ℤ := c.viewport.height.toNat - c.window.height.toNat

/-- Where there is this much slack, a coordinate may be off by less than the tolerance, or not at
all.  Both sides are doubled, so that they are whole on the grid. -/
def Allows (c : Centering) (slack : ℤ) (x : ℚ) : Prop :=
  |2 * x - slack| = 0 ∨ |2 * x - slack| < 2 * c.tolerance.toNat

/-- Both ends of the slack are treated alike. -/
theorem allows_mirrored : c.Allows slack (slack - x) ↔ c.Allows slack x := by
  have hmirrored : |2 * (slack - x) - slack| = |2 * x - slack| := by
    rw [← abs_neg]
    congr 1
    ring
  rw [Allows, Allows, hmirrored]

theorem Allows.mono {tolerance : UInt32} (hallows : c.Allows slack x)
    (hle : c.tolerance ≤ tolerance) : Allows { c with tolerance } slack x := by
  have hmore : (c.tolerance.toNat : ℚ) ≤ tolerance.toNat := by
    exact_mod_cast UInt32.le_iff_toNat_le.mp hle
  refine hallows.imp id fun hless => hless.trans_le ?_
  exact mul_le_mul_of_nonneg_left hmore zero_le_two

theorem allows_centered (c : Centering) (slack : ℤ) : c.Allows slack (slack / 2) := by
  left
  rw [mul_div_cancel₀ _ two_ne_zero, sub_self, abs_zero]

/-! ## Exact arithmetic -/

/-- A multiple of one half, whose distance from the centered place is exact. -/
structure Measured (slack : ℤ) (x : ℚ) : Prop where
  half : ∃ k : ℤ, 2 * x = k
  near : |2 * x - slack| < 2 ^ 53

theorem Measured.mirrored (hx : Measured slack x) : Measured slack (slack - x) := by
  obtain ⟨⟨k, hk⟩, hnear⟩ := hx
  refine ⟨⟨2 * slack - k, ?_⟩, ?_⟩
  · push_cast
    linarith
  · rw [← abs_neg]
    convert hnear using 2
    ring

theorem abs_wordDifference_lt (m n : UInt32) : |(m.toNat - n.toNat : ℤ)| < 2 ^ 32 := by
  have hm := m.toNat_lt
  have hn := n.toNat_lt
  rw [abs_lt]
  omega

theorem measured_of_onGrid (hslack : |slack| < 2 ^ 32) (hx : OnGrid x) : Measured slack x := by
  refine ⟨hx.half, ?_⟩
  have hslack : |(slack : ℚ)| < 2 ^ 32 := by exact_mod_cast hslack
  calc |2 * x - slack| ≤ |2 * x| + |(slack : ℚ)| := abs_sub _ _
    _ = 2 * |x| + |(slack : ℚ)| := by rw [abs_mul, abs_two]
    _ < 2 ^ 53 := by linarith [hx.near]

theorem rational?_floatOfWord (n : UInt32) : rational? (floatOfWord n) = some (n.toNat : ℚ) :=
  rational?_ofNat (Nat.lt_trans n.toNat_lt (by decide))

/-- The centered place is exact. -/
theorem rational?_centered (viewport window : UInt32) :
    rational? ((floatOfWord viewport - floatOfWord window) / 2) =
      some (((viewport.toNat - window.toNat : ℤ) : ℚ) / 2) := by
  have hsmall : |(viewport.toNat - window.toNat : ℤ)| < 2 ^ 53 :=
    (abs_wordDifference_lt viewport window).trans (by decide)
  have hvalue : (viewport.toNat : ℚ) - window.toNat =
      ((viewport.toNat - window.toNat : ℤ) : ℚ) := by
    push_cast
    rfl
  have hslack := rational?_sub (rational?_floatOfWord viewport) (rational?_floatOfWord window)
    (j := 0) ⟨hsmall, by decide, by decide, by rw [hvalue, zpow_zero, mul_one]⟩
  rw [hvalue] at hslack
  exact rational?_div_ofNat (n := 2) (by decide) (by decide) hslack
    (j := -1) ⟨hsmall, by decide, by decide, by rw [zpow_neg_one]; rfl⟩

theorem origin_standsAt (c : Centering) (width height : Float) :
    Box.StandsAt ⟨c.origin.x, c.origin.y, width, height⟩ (c.slackX / 2) (c.slackY / 2) :=
  ⟨rational?_centered .., rational?_centered ..⟩

/-- The comparison of one coordinate is that of the exact deviation. -/
theorem tolerates_iff {place centered : Float} (hplace : rational? place = some x)
    (hcentered : rational? centered = some ((slack : ℚ) / 2)) (hx : Measured slack x) :
    c.tolerates (place - centered).abs = true ↔ c.Allows slack x := by
  obtain ⟨⟨k, hk⟩, hnear⟩ := hx
  have hdouble : |2 * x - slack| = 2 * |x - slack / 2| := by
    rw [← abs_two, ← abs_mul, abs_two]
    congr 1
    ring
  have hsmall : |k - slack| < 2 ^ 53 := by
    rw [hk] at hnear
    exact_mod_cast hnear
  have hdeviation := rational?_abs (rational?_sub hplace hcentered
    (j := -1) ⟨hsmall, by decide, by decide, by
      rw [zpow_neg_one, Int.cast_sub, ← hk]
      ring⟩)
  rw [tolerates, Bool.or_eq_true, beq_zero_iff hdeviation, decide_eq_true_iff,
    lt_iff_of_rational? hdeviation (rational?_floatOfWord c.tolerance), Allows, hdouble,
    mul_eq_zero_iff_left two_ne_zero, mul_lt_mul_iff_right₀ two_pos]

theorem check_passed_iff (hb : b.StandsAt x y) (hx : Measured c.slackX x)
    (hy : Measured c.slackY y) :
    (c.check b).passed = true ↔ c.Allows c.slackX x ∧ c.Allows c.slackY y := by
  obtain ⟨hleft, htop⟩ := c.origin_standsAt 0 0
  rw [check, Bool.and_eq_true, tolerates_iff hb.left hleft hx, tolerates_iff hb.top htop hy]

/-! ## The law -/

/-- A window on the grid of half pixels passes exactly when on either axis twice its deviation from
the centered place is nothing or less than twice the tolerance.  So the check does not tell a
window from its mirror images about the centered place, passes with every greater tolerance, and
passes with any at the centered place itself. -/
theorem tolerance_law (hb : b.StandsAt x y) (hx : OnGrid x) (hy : OnGrid y) :
    ((c.check b).passed = true ↔ c.Allows c.slackX x ∧ c.Allows c.slackY y) ∧
    (∀ b' x' y', Box.StandsAt b' x' y' → (x' = x ∨ x' = c.slackX - x) →
      (y' = y ∨ y' = c.slackY - y) → (c.check b').passed = (c.check b).passed) ∧
    (∀ tolerance, c.tolerance ≤ tolerance → (c.check b).passed = true →
      ({ c with tolerance }.check b).passed = true) ∧
    (∀ width height, Box.StandsAt ⟨c.origin.x, c.origin.y, width, height⟩ (c.slackX / 2)
      (c.slackY / 2)) ∧
    (x = c.slackX / 2 → y = c.slackY / 2 → ({ c with tolerance := 0 }.check b).passed = true) := by
  have hmeasuredX : Measured c.slackX x := measured_of_onGrid (abs_wordDifference_lt ..) hx
  have hmeasuredY : Measured c.slackY y := measured_of_onGrid (abs_wordDifference_lt ..) hy
  have hlaw := check_passed_iff hb hmeasuredX hmeasuredY
  refine ⟨hlaw, ?mirror, ?monotone, ?origin, ?exact⟩
  case mirror =>
    intro b' x' y' hb' hx' hy'
    have hsameX : Measured c.slackX x' ∧ (c.Allows c.slackX x' ↔ c.Allows c.slackX x) := by
      rcases hx' with rfl | rfl
      · exact ⟨hmeasuredX, .rfl⟩
      · exact ⟨hmeasuredX.mirrored, allows_mirrored⟩
    have hsameY : Measured c.slackY y' ∧ (c.Allows c.slackY y' ↔ c.Allows c.slackY y) := by
      rcases hy' with rfl | rfl
      · exact ⟨hmeasuredY, .rfl⟩
      · exact ⟨hmeasuredY.mirrored, allows_mirrored⟩
    rw [Bool.eq_iff_iff, hlaw, check_passed_iff hb' hsameX.1 hsameY.1, hsameX.2, hsameY.2]
  case monotone =>
    intro tolerance hle hpassed
    obtain ⟨hallowsX, hallowsY⟩ := hlaw.mp hpassed
    exact (check_passed_iff (c := { c with tolerance }) hb hmeasuredX hmeasuredY).mpr
      ⟨hallowsX.mono hle, hallowsY.mono hle⟩
  case origin => exact c.origin_standsAt
  case exact =>
    rintro rfl rfl
    exact (check_passed_iff (c := { c with tolerance := 0 }) hb hmeasuredX hmeasuredY).mpr
      ⟨allows_centered _ _, allows_centered _ _⟩

/-- A window of odd slack that is wider than the viewport. -/
def wideWindow : Centering := ⟨⟨800, 601⟩, ⟨1000, 400⟩, 1⟩

/-- Half a pixel off on both axes passes with a tolerance of one pixel, on either side of the
centered place, and not with a tolerance of none. -/
theorem wideWindow_tolerated :
    Box.StandsAt ⟨-99.5, 100, 1000, 400⟩ (-199 / 2) 100 ∧ OnGrid (-199 / 2) ∧ OnGrid 100 ∧
      (wideWindow.check ⟨-99.5, 100, 1000, 400⟩).passed = true ∧
      (wideWindow.check ⟨-100.5, 101, 1000, 400⟩).passed = true ∧
      ({ wideWindow with tolerance := 0 }.check ⟨-99.5, 100, 1000, 400⟩).passed = false ∧
      ({ wideWindow with tolerance := 0 }.check ⟨-100, 100.5, 1000, 400⟩).passed = true := by
  have hstands : Box.StandsAt ⟨-99.5, 100, 1000, 400⟩ (-199 / 2) 100 := by
    constructor <;> decide +kernel
  have hmirrored : Box.StandsAt ⟨-100.5, 101, 1000, 400⟩ (-201 / 2) 101 := by
    constructor <;> decide +kernel
  have hcentered : Box.StandsAt ⟨-100, 100.5, 1000, 400⟩ (-100) (201 / 2) := by
    constructor <;> decide +kernel
  have hgridX : OnGrid (-199 / 2) := ⟨⟨-199, by norm_num⟩, by norm_num [abs_le]⟩
  have hgridY : OnGrid 100 := ⟨⟨200, by norm_num⟩, by norm_num [abs_le]⟩
  have hgridX' : OnGrid (-100) := ⟨⟨-200, by norm_num⟩, by norm_num [abs_le]⟩
  have hgridY' : OnGrid (201 / 2) := ⟨⟨201, by norm_num⟩, by norm_num [abs_le]⟩
  have hslackX : wideWindow.slackX = -200 := rfl
  have hslackY : wideWindow.slackY = 201 := rfl
  have htolerance : wideWindow.tolerance.toNat = 1 := rfl
  obtain ⟨hlaw, hmirror, -, -, -⟩ := tolerance_law (c := wideWindow) hstands hgridX hgridY
  have hpassed : (wideWindow.check ⟨-99.5, 100, 1000, 400⟩).passed = true := by
    rw [hlaw, Allows, Allows, hslackX, hslackY, htolerance]
    norm_num
  refine ⟨hstands, hgridX, hgridY, hpassed, ?mirrored, ?strict, ?exact⟩
  case mirrored =>
    refine (hmirror _ _ _ hmirrored (.inr ?_) (.inr ?_)).trans hpassed
    · norm_num [hslackX]
    · norm_num [hslackY]
  case strict =>
    obtain ⟨hstrict, -, -, -, -⟩ :=
      tolerance_law (c := { wideWindow with tolerance := 0 }) hstands hgridX hgridY
    have hslack : ({ wideWindow with tolerance := 0 } : Centering).slackX = -200 := rfl
    have hnone : ({ wideWindow with tolerance := 0 } : Centering).tolerance.toNat = 0 := rfl
    rw [Bool.eq_false_iff, ne_eq, hstrict, not_and_or]
    left
    rw [Allows, hslack, hnone]
    norm_num
  case exact =>
    obtain ⟨-, -, -, -, hexact⟩ := tolerance_law (c := wideWindow) hcentered hgridX' hgridY'
    apply hexact
    · norm_num [hslackX]
    · norm_num [hslackY]

end Centering

end DesktopTrial
