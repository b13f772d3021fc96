import DesktopTrial.Proofs.Decimal.Layout
import DesktopTrial.Proofs.Yaml.Scalar

/-!
# Binary64 values are read back

The text of a finite binary64 value is no word and no whole number, and is resolved to
the value.
-/

namespace DesktopTrial.Yaml

open Decimal (isNumberChar)

variable {x : Float}

/-- The digits of a base end before any character that is no decimal digit. -/
theorem baseDigits?_of_not_isDigit {ds : List Char} (hother : ∃ c ∈ ds, c.isDigit = false)
    (hchars : ∀ c ∈ ds, isNumberChar c = true) : baseDigits? 10 ds = none := by
  have hdigit (c : Char) (hc : c ∈ ds) (hnone : c.isDigit = false) : baseDigit? 10 c = none := by
    have hchar := hchars c hc
    simp only [isNumberChar, hnone, Bool.false_or, Bool.or_eq_true, beq_iff_eq] at hchar
    rcases hchar with ((rfl | rfl) | rfl) | rfl <;> rfl
  have hfold (start : Nat) :
      ds.foldlM (fun n d => (baseDigit? 10 d).map fun value => 10 * n + value) start = none := by
    clear hchars
    induction ds generalizing start with
    | nil => simp at hother
    | cons c ds ih =>
        rw [List.foldlM_cons]
        cases hc : c.isDigit with
        | false => rw [hdigit c List.mem_cons_self hc]; rfl
        | true =>
            rw [baseDigit?_of_isDigit hc]
            refine ih ?_ (fun d hd => hdigit d (List.mem_cons_of_mem _ hd)) _
            obtain ⟨d, hd, hnone⟩ := hother
            rcases List.mem_cons.mp hd with rfl | hd
            · rw [hc] at hnone
              cases hnone
            · exact ⟨d, hd, hnone⟩
  rw [baseDigits?, if_neg, hfold]
  obtain ⟨c, hc, -⟩ := hother
  simp [List.ne_nil_of_mem hc]

/-- A text with another character than digits behind its first digit is no magnitude. -/
theorem magnitude?_of_not_isDigit {ds : List Char} (hother : ∃ c ∈ ds, c.isDigit = false)
    (hchars : ∀ c ∈ ds, isNumberChar c = true) : magnitude? ds = none := by
  rw [magnitude?]
  · split
    · rfl
    · exact baseDigits?_of_not_isDigit hother hchars
  all_goals
    rintro rest rfl
    have hmark := hchars _ (List.mem_cons_of_mem _ List.mem_cons_self)
    cases hmark

/-- The text of a finite value: a sign or none, and a digit among characters of numbers, one
of them no digit. -/
theorem numberLayout_text (hfinite : x.isFinite = true) :
    ∃ c rest, (numberLayout.text x).toList =
        Decimal.signChars (Decimal.signBit x.toBits) ++ c :: rest ∧
      c.isDigit = true ∧ (∀ d ∈ c :: rest, isNumberChar d = true) ∧
      ∃ d ∈ c :: rest, d.isDigit = false := by
  obtain ⟨d, hspells, -⟩ := numberLayout.spells_body (Decimal.Binary.ofBits x.toBits)
  obtain ⟨c, rest, hbody, hdigit⟩ := hspells.opens
  have hchars := hspells.chars
  have hmarked := hspells.marked rfl
  rw [hbody] at hchars hmarked
  exact ⟨c, rest, by rw [numberLayout.toList_text hfinite, hbody], hdigit, hchars, hmarked⟩

theorem isNumberChar_of_mem_text (hfinite : x.isFinite = true) :
    ∀ c ∈ (numberLayout.text x).toList, isNumberChar c = true := by
  obtain ⟨c, rest, htext, -, hchars, -⟩ := numberLayout_text hfinite
  intro d hd
  rw [htext, List.mem_append] at hd
  rcases hd with hd | hd
  · cases hsign : Decimal.signBit x.toBits with
    | false => rw [hsign] at hd; cases hd
    | true =>
        rw [hsign] at hd
        rw [List.mem_singleton.mp hd]
        rfl
  · exact hchars d hd

/-- A text of characters of numbers is no word. -/
theorem ne_word {text : String} (hchars : ∀ c ∈ text.toList, isNumberChar c = true)
    (word : String) (hword : word.toList.all isNumberChar = false) : (text == word) = false := by
  rw [beq_eq_false_iff_ne]
  rintro rfl
  rw [List.all_eq_true.mpr hchars] at hword
  cases hword

theorem opensNumber_text (hfinite : x.isFinite = true) :
    (numberLayout.text x).toList.head?.any opensNumber = true := by
  obtain ⟨c, rest, htext, hdigit, -⟩ := numberLayout_text hfinite
  rw [htext]
  cases Decimal.signBit x.toBits with
  | false => simp [Decimal.signChars, opensNumber, hdigit]
  | true => rfl

/-- No plus sign stands in front. -/
theorem dropPlus?_text (hfinite : x.isFinite = true) :
    dropPlus? (numberLayout.text x).toList = some (numberLayout.text x).toList := by
  have hopens := opensNumber_text hfinite
  rw [dropPlus?]
  all_goals
    intros
    rename_i heq
    rw [heq] at hopens
    cases hopens

theorem float?_text (hfinite : x.isFinite = true) : float? (numberLayout.text x) = some x := by
  have hchars := isNumberChar_of_mem_text hfinite
  obtain ⟨p, hread, hvalue⟩ := Decimal.readLenient?_text numberLayout hfinite
  rw [float?, dropPlus?_text hfinite]
  simp only [String.ofList_toList, ne_word hchars ".inf" rfl,
    ne_word hchars ".Inf" rfl, ne_word hchars ".INF" rfl,
    ne_word hchars "-.inf" rfl, ne_word hchars "-.Inf" rfl,
    ne_word hchars "-.INF" rfl, ne_word hchars ".nan" rfl,
    ne_word hchars ".NaN" rfl, ne_word hchars ".NAN" rfl, Bool.or_self,
    Bool.false_eq_true, if_false, hread, hvalue, hfinite, if_true]

/-- A value is not taken for a whole number. -/
theorem integer?_text (hfinite : x.isFinite = true) :
    integer? (numberLayout.text x).toList = none := by
  obtain ⟨c, rest, htext, hdigit, hchars, hother⟩ := numberLayout_text hfinite
  have hbody := magnitude?_of_not_isDigit hother hchars
  rw [htext]
  cases Decimal.signBit x.toBits with
  | false =>
      have hunsigned : unsigned? (c :: rest) = none := by
        rw [unsigned?]
        · exact hbody
        · intro more heq
          cases heq
          cases hdigit
      have hnegated : negated? (c :: rest) = none := by
        rw [negated?]
        intro more heq
        cases heq
        cases hdigit
      simp [Decimal.signChars, integer?, hunsigned, hnegated]
  | true =>
      have hunsigned : unsigned? ('-' :: c :: rest) = none := by
        rw [unsigned?]
        · exact magnitude?_minus _
        · intro more heq
          cases heq
      simp [Decimal.signChars, integer?, hunsigned, negated?, hbody]

theorem isZeroPadded_text (hfinite : x.isFinite = true) :
    isZeroPadded (numberLayout.text x).toList = false := by
  obtain ⟨c, rest, htext, hdigit, -, d, hd, hother⟩ := numberLayout_text hfinite
  have hrest : rest.all Char.isDigit = false := by
    rw [List.all_eq_false]
    rcases List.mem_cons.mp hd with rfl | hd
    · rw [hdigit] at hother
      cases hother
    · exact ⟨d, hd, by simp [hother]⟩
  have hsign : isSign c = false := by
    rw [isSign, Bool.or_eq_false_iff]
    constructor <;>
    · rw [beq_eq_false_iff_ne]
      rintro rfl
      cases hdigit
  have hplain : isZeroPadded (c :: rest) = false := by
    simp only [isZeroPadded, hsign, Bool.false_eq_true, if_false]
    split
    · rename_i heq
      cases heq
      exact hrest
    · rfl
  rw [htext]
  cases Decimal.signBit x.toBits with
  | false => exact hplain
  | true =>
      have hskip : isZeroPadded ('-' :: c :: rest) = isZeroPadded (c :: rest) := by
        simp only [isZeroPadded, hsign, Bool.false_eq_true, if_false]
        rfl
      exact hskip.trans hplain

theorem resolve_text (hfinite : x.isFinite = true) :
    resolve (numberLayout.text x) = .float x := by
  obtain ⟨hempty, hnull, hbool⟩ := not_word (opensNumber_text hfinite)
  simp only [resolve, hempty, hnull, hbool, integer?_text hfinite, isZeroPadded_text hfinite,
    float?_text hfinite, Bool.or_self, Bool.false_eq_true, if_false]

theorem scalarBuffer?_float (hfinite : x.isFinite = true) :
    scalarBuffer? none .plain (numberLayout.text x) = some (.float x) := by
  simp only [scalarBuffer?, resolve_text hfinite, if_true]

end DesktopTrial.Yaml
