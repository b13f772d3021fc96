import DesktopTrial.Proofs.Yaml.Number

/-!
# Numbers are written without quotes

The texts of whole numbers and of binary64 values contain nothing that the grammar gives a
meaning to, so they may stand as plain scalars.
-/

namespace DesktopTrial.Yaml

open Decimal (isNumberChar)

/-! ## Ordinary characters -/

theorem hasClosingColon_of_forall {text : List Char} (hcolons : ∀ c ∈ text, c ≠ ':') :
    hasClosingColon text = false := by
  induction text with
  | nil => rfl
  | cons c text ih =>
      have hcolon : (c == ':') = false := beq_eq_false_iff_ne.mpr (hcolons c List.mem_cons_self)
      rw [hasClosingColon, hcolon, ih fun d hd => hcolons d (List.mem_cons_of_mem _ hd)]
      rfl

theorem hasNeighbors_of_forall {q r : Char → Bool} {text : List Char}
    (hnone : ∀ c ∈ text, r c = false) : hasNeighbors q r text = false := by
  induction text with
  | nil => rfl
  | cons c text ih =>
      cases text with
      | nil => rfl
      | cons d text =>
          rw [hasNeighbors, hnone d (by simp), Bool.and_false,
            ih fun e he => hnone e (List.mem_cons_of_mem _ he)]
          rfl

/-- A character that is printed as it is and means nothing to the grammar behind the first
place. -/
def isOrdinary (c : Char) : Bool :=
  isPrintable c && !isBlankOrBreak c && c != ':' && c != '#'

/-- A text of ordinary characters is written without quotes unless it begins as something
else. -/
theorem plainAllowed_of_ordinary {text : List Char} (hordinary : ∀ c ∈ text, isOrdinary c = true)
    (hopens : opensOther text = false) : plainAllowed text = true := by
  have hspec (c : Char) (hc : c ∈ text) :
      isPrintable c = true ∧ isLineBreak c = false ∧ isSpace c = false ∧ c ≠ ':' ∧ c ≠ '#' := by
    have hchar := hordinary c hc
    simp only [isOrdinary, isBlankOrBreak, isGap, Bool.and_eq_true, Bool.not_eq_true',
      Bool.or_eq_false_iff, bne_iff_ne] at hchar
    obtain ⟨⟨⟨hprintable, ⟨⟨hspace, -⟩, hbreak⟩, -⟩, hcolon⟩, hcomment⟩ := hchar
    exact ⟨hprintable, hbreak, hspace, hcolon, hcomment⟩
  have hopen : hasOpenEnd text = false := by
    have hends (last : Option Char) (hlast : ∀ c ∈ last, c ∈ text) :
        last.any (fun c => isSpace c || isLineBreak c) = false := by
      cases hcases : last with
      | none => rfl
      | some c =>
          obtain ⟨-, hbreak, hspace, -⟩ := hspec c (hlast c hcases)
          rw [Option.any_some, hbreak, hspace]
          rfl
    rw [hasOpenEnd, Bool.or_eq_false_iff]
    exact ⟨hends _ fun c hc => List.mem_of_mem_head? hc, hends _ fun c hc => List.mem_of_getLast? hc⟩
  have hprintable : hasUnprintable text = false := by
    rw [hasUnprintable, List.any_eq_false]
    intro c hc
    rw [(hspec c hc).1]
    exact Bool.false_ne_true
  have hbreaks : text.any isLineBreak = false := by
    rw [List.any_eq_false]
    intro c hc
    rw [(hspec c hc).2.1]
    exact Bool.false_ne_true
  have hcolons : hasClosingColon text = false :=
    hasClosingColon_of_forall fun c hc => (hspec c hc).2.2.2.1
  have hcomments : hasNeighbors isBlankOrBreak (· == '#') text = false :=
    hasNeighbors_of_forall fun c hc => beq_eq_false_iff_ne.mpr (hspec c hc).2.2.2.2
  rw [plainAllowed, hopen, hprintable, hbreaks, hasIndicator, hopens, hcolons, hcomments]
  rfl

/-! ## Numbers -/

/-- What holds of the ten digits holds of every digit. -/
theorem forall_isDigit {q : Char → Prop} (hcodes : ∀ n < 58, 48 ≤ n → q (Char.ofNat n)) {c : Char}
    (hdigit : c.isDigit = true) : q c := by
  have hrange : 48 ≤ c.toNat ∧ c.toNat < 58 := by
    simp only [Char.isDigit, Bool.and_eq_true, decide_eq_true_eq, ge_iff_le,
      UInt32.le_iff_toNat_le] at hdigit
    exact ⟨hdigit.1, Nat.lt_succ_of_le hdigit.2⟩
  have hcode := hcodes c.toNat hrange.2 hrange.1
  rwa [Char.ofNat_toNat] at hcode

theorem isOrdinary_of_isNumberChar {c : Char} (hc : isNumberChar c = true) :
    isOrdinary c = true := by
  simp only [isNumberChar, Bool.or_eq_true, beq_iff_eq] at hc
  rcases hc with (((hdigit | rfl) | rfl) | rfl) | rfl
  · exact forall_isDigit (q := fun c => isOrdinary c = true) (by decide) hdigit
  all_goals decide

theorem not_opensOther_of_isDigit {c : Char} {rest : List Char} (hdigit : c.isDigit = true) :
    opensOther (c :: rest) = false ∧ opensOther ('-' :: c :: rest) = false := by
  obtain ⟨hmark, hblank, hleft, hright, hpoint, hquestion⟩ :=
    forall_isDigit (q := fun c => isOpeningMark c = false ∧ isBlankOrBreak c = false ∧
      (c == '-') = false ∧ ('-' == c) = false ∧ ('.' == c) = false ∧ (c == '?') = false)
      (by decide) hdigit
  constructor
  · simp only [opensOther, List.isPrefixOf, hleft, hright, hpoint, hmark, hquestion, Bool.false_and,
      Bool.or_self]
  · simp only [opensOther, List.isPrefixOf, hright, endsToken, hblank, Bool.and_false,
      Bool.false_and]
    rfl

/-- A number is written without quotes. -/
theorem plainAllowed_number (negative : Bool) {c : Char} {rest : List Char}
    (hdigit : c.isDigit = true) (hchars : ∀ d ∈ c :: rest, isNumberChar d = true) :
    plainAllowed (Decimal.signChars negative ++ c :: rest) = true := by
  have hordinary : ∀ d ∈ c :: rest, isOrdinary d = true := fun d hd =>
    isOrdinary_of_isNumberChar (hchars d hd)
  cases negative with
  | false => exact plainAllowed_of_ordinary hordinary (not_opensOther_of_isDigit hdigit).1
  | true =>
      refine plainAllowed_of_ordinary (fun d hd => ?_) (not_opensOther_of_isDigit hdigit).2
      rcases List.mem_cons.mp hd with rfl | hd
      · rfl
      · exact hordinary d hd

theorem plainAllowed_ofInt (n : Int) : plainAllowed (Decimal.ofInt n).toList = true := by
  have hdigits : ∀ c ∈ Decimal.digits n.natAbs, c.isDigit = true := Decimal.isDigit_of_mem_digits
  obtain ⟨c, rest, hcons⟩ := List.exists_cons_of_ne_nil (Decimal.digits_ne_nil n.natAbs)
  have hnumber (negative : Bool) :
      plainAllowed (Decimal.signChars negative ++ Decimal.digits n.natAbs) = true := by
    rw [hcons] at hdigits ⊢
    exact plainAllowed_number negative (hdigits c List.mem_cons_self) fun d hd =>
      Decimal.isNumberChar_of_isDigit (hdigits d hd)
  rw [Decimal.ofInt, String.toList_ofList]
  split
  · exact hnumber true
  · exact hnumber false

theorem ofInt_ne_nil (n : Int) : (Decimal.ofInt n).toList ≠ [] := by
  intro hempty
  have hopens := opensNumber_ofInt n
  rw [hempty] at hopens
  cases hopens

/-- The text of a value without digits is one of three words. -/
theorem text_of_not_isFinite {x : Float} (hfinite : x.isFinite = false) :
    numberLayout.text x = ".nan" ∨ numberLayout.text x = ".inf" ∨ numberLayout.text x = "-.inf" := by
  have hspecial : x.isNaN = true ∨ x.isInf = true := by
    change x.toModel.unpack.isNaN = true ∨ x.toModel.unpack.isInf = true
    have hnone : x.toModel.unpack.isFinite = false := hfinite
    cases hunpack : x.toModel.unpack with
    | notANumber => exact .inl rfl
    | infinity => exact .inr rfl
    | zero | finite => rw [hunpack] at hnone; cases hnone
  rw [Decimal.Layout.text]
  dsimp only
  split
  · exact .inl rfl
  · rename_i hnumber
    rw [if_pos (hspecial.resolve_left hnumber)]
    split
    · exact .inr (.inr rfl)
    · exact .inr (.inl rfl)

/-- The text of every binary64 value is written without quotes. -/
theorem plainAllowed_text (x : Float) :
    plainAllowed (numberLayout.text x).toList = true ∧ (numberLayout.text x).toList ≠ [] := by
  cases hfinite : x.isFinite with
  | true =>
      obtain ⟨c, rest, htext, hdigit, hchars, -⟩ := numberLayout_text hfinite
      rw [htext]
      exact ⟨plainAllowed_number _ hdigit hchars, by simp⟩
  | false => rcases text_of_not_isFinite hfinite with hword | hword | hword <;> rw [hword] <;> decide

end DesktopTrial.Yaml
