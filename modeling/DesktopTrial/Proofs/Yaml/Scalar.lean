import DesktopTrial.Proofs.Decimal.Digits
import DesktopTrial.Source.YamlText
import DesktopTrial.Yaml.Printer

/-!
# Plain scalars are read back

A word, a whole number or a text that is written as a plain scalar is resolved to what it
was written for.
-/

namespace DesktopTrial.Yaml

/-! ## Digits -/

theorem baseDigit?_of_isDigit {c : Char} (hdigit : c.isDigit = true) :
    baseDigit? 10 c = some (Decimal.digitValue c) := by
  have hrange : 48 ≤ c.toNat ∧ c.toNat ≤ 57 := by
    simp only [Char.isDigit, Bool.and_eq_true, decide_eq_true_eq, ge_iff_le,
      UInt32.le_iff_toNat_le] at hdigit
    exact hdigit
  have hzero : '0'.toNat = 48 := rfl
  simp only [baseDigit?, hdigit, if_true, Decimal.digitValue, hzero]
  rw [if_pos (by omega)]

theorem foldlM_baseDigit? {ds : List Char} (hdigits : ∀ c ∈ ds, c.isDigit = true) (start : Nat) :
    ds.foldlM (fun n d => (baseDigit? 10 d).map fun value => 10 * n + value) start =
      some (Decimal.digitsValue start ds) := by
  induction ds generalizing start with
  | nil => rfl
  | cons c ds ih =>
      rw [List.foldlM_cons, baseDigit?_of_isDigit (hdigits c List.mem_cons_self)]
      exact ih (fun d hd => hdigits d (List.mem_cons_of_mem _ hd)) _

theorem baseDigits?_digits (n : Nat) : baseDigits? 10 (Decimal.digits n) = some n := by
  rw [baseDigits?, if_neg (by simp [Decimal.digits_ne_nil]),
    foldlM_baseDigit? Decimal.isDigit_of_mem_digits, Decimal.digitsValue_digits]

/-- The digits of a number are not padded with a zero. -/
theorem digits_ne_padded (n : Nat) (c : Char) (rest : List Char) :
    Decimal.digits n ≠ '0' :: c :: rest := by
  intro hpadded
  rcases Nat.eq_zero_or_pos n with rfl | hpositive
  · cases hpadded
  · exact Decimal.head?_digits_ne_zero hpositive (by rw [hpadded, List.head?_cons])

theorem digits_ne_signed (n : Nat) {c : Char} {rest : List Char} (hsign : isSign c = true) :
    Decimal.digits n ≠ c :: rest := by
  intro hsame
  have hdigit := Decimal.isDigit_of_mem_digits (n := n) c (by rw [hsame]; exact List.mem_cons_self)
  simp only [isSign, Bool.or_eq_true, beq_iff_eq] at hsign
  rcases hsign with rfl | rfl <;> cases hdigit

theorem isZeroPadded_digits (n : Nat) : isZeroPadded (Decimal.digits n) = false := by
  cases hdigits : Decimal.digits n with
  | nil => rfl
  | cons c ds =>
      have hsign : isSign c = false := by
        cases h : isSign c
        · rfl
        · exact absurd hdigits (digits_ne_signed n h)
      rw [isZeroPadded]
      simp only [hsign, Bool.false_eq_true, if_false]
      split
      · rename_i hpadded
        rw [hpadded] at hdigits
        exact absurd hdigits (digits_ne_padded n _ _)
      · rfl

theorem magnitude?_digits (n : Nat) : magnitude? (Decimal.digits n) = some n := by
  rw [magnitude?, isZeroPadded_digits, if_neg Bool.false_ne_true]
  · exact baseDigits?_digits n
  all_goals
    intro ds
    exact digits_ne_padded n _ _

theorem unsigned?_digits (n : Nat) : unsigned? (Decimal.digits n) = some n := by
  rw [unsigned?]
  · exact magnitude?_digits n
  · intro rest
    exact digits_ne_signed n rfl

/-! ## Whole numbers -/

theorem magnitude?_minus (ds : List Char) : magnitude? ('-' :: ds) = none := by
  rw [magnitude?]
  · split
    · rfl
    · simp [baseDigits?, baseDigit?]
  all_goals
    intro rest hsame
    cases hsame

/-- A whole number in decimal is read as the number. -/
theorem integer?_ofInt {n : Int} (hleast : Json.leastInteger ≤ n)
    (hgreatest : n ≤ Json.greatestInteger) : integer? (Decimal.ofInt n).toList = some n := by
  have hbounds : -(2 ^ 63 : Int) ≤ n ∧ n < 2 ^ 64 := by
    simp only [Json.leastInteger, Json.greatestInteger, UInt64.size, Int.ofNat_eq_natCast]
      at hleast hgreatest
    omega
  rw [Decimal.ofInt, String.toList_ofList]
  by_cases hnegative : n < 0
  · have hunsigned : unsigned? ('-' :: Decimal.digits n.natAbs) = none := by
      rw [unsigned?]
      · exact magnitude?_minus _
      · intro rest hsame
        cases hsame
    have hmagnitude : n.natAbs ≤ Nat.pow 2 127 := by
      simp only [Nat.pow_eq]
      omega
    rw [if_pos hnegative, integer?, hunsigned]
    simp only [negated?, magnitude?_digits, if_pos hmagnitude]
    congr 1
    omega
  · have hmagnitude : n.natAbs < Nat.pow 2 128 := by
      simp only [Nat.pow_eq]
      omega
    rw [if_neg hnegative, integer?, unsigned?_digits]
    simp only [if_pos hmagnitude]
    congr 1
    omega

/-- A character that the text of a number may begin with. -/
def opensNumber (c : Char) : Bool := c == '-' || c.isDigit

/-- A text that begins as a number does is none of the words. -/
theorem not_word {text : String} (hopens : text.toList.head?.any opensNumber = true) :
    text.isEmpty = false ∧ isNullWord text = false ∧ boolWord? text = none := by
  have hne (word : String) (hword : word.toList.head?.any opensNumber = false) :
      (text == word) = false := by
    rw [beq_eq_false_iff_ne]
    rintro rfl
    rw [hword] at hopens
    cases hopens
  refine ⟨?_, ?_, ?_⟩
  · rw [String.isEmpty_eq_false_iff]
    rintro rfl
    cases hopens
  · rw [isNullWord, hne "null" rfl, hne "Null" rfl, hne "NULL" rfl, hne "~" rfl]
    rfl
  · rw [boolWord?, hne "true" rfl, hne "True" rfl, hne "TRUE" rfl, hne "false" rfl,
      hne "False" rfl, hne "FALSE" rfl]
    rfl

theorem opensNumber_ofInt (n : Int) : (Decimal.ofInt n).toList.head?.any opensNumber = true := by
  rw [Decimal.ofInt, String.toList_ofList]
  split
  · rfl
  · cases hdigits : Decimal.digits n.natAbs with
    | nil => exact absurd hdigits (Decimal.digits_ne_nil _)
    | cons c ds =>
        have hdigit := Decimal.isDigit_of_mem_digits (n := n.natAbs) c (by simp [hdigits])
        simp [opensNumber, hdigit]

theorem resolve_ofInt {n : Int} (hleast : Json.leastInteger ≤ n)
    (hgreatest : n ≤ Json.greatestInteger) : resolve (Decimal.ofInt n) = .integer n := by
  obtain ⟨hempty, hnull, hbool⟩ := not_word (opensNumber_ofInt n)
  simp only [resolve, hempty, hnull, hbool, integer?_ofInt hleast hgreatest, Bool.or_self,
    Bool.false_eq_true, if_false]

/-! ## Texts -/

/-- A text that is written plain is no other value. -/
theorem resolve_of_plain {text : String} (hplain : presentation text = .plain) :
    resolve text = .text := by
  simp only [presentation] at hplain
  split at hplain
  · split at hplain <;> cases hplain
  · split at hplain
    · rename_i hambiguous
      simp only [Bool.and_eq_true, Bool.not_eq_true', isAmbiguous] at hambiguous
      cases hresolve : resolve text with
      | text => rfl
      | null | bool | integer | float => rw [hresolve] at hambiguous; cases hambiguous.1
    · split at hplain <;> cases hplain

theorem not_nothing_of_plain {text : String} (hplain : presentation text = .plain) :
    (text.isEmpty || isNullWord text) = false := by
  have hresolve := resolve_of_plain hplain
  rw [resolve] at hresolve
  split at hresolve
  · cases hresolve
  · rename_i hother
    exact Bool.eq_false_iff.mpr hother

/-! ## Free-form values -/

theorem scalarBuffer?_text (text : String) :
    scalarBuffer? none (presentation text) text = some (.text text) := by
  simp only [scalarBuffer?]
  split
  · rename_i hplain
    rw [resolve_of_plain hplain]
  · rfl

theorem scalarBuffer?_ofInt {n : Int} (hleast : Json.leastInteger ≤ n)
    (hgreatest : n ≤ Json.greatestInteger) :
    scalarBuffer? none .plain (Decimal.ofInt n) =
      some (if n < 0 then .negative n else .natural n.toNat) := by
  simp only [Json.leastInteger, Json.greatestInteger] at hleast hgreatest
  simp only [scalarBuffer?, if_true, resolve_ofInt hleast hgreatest]
  split
  · rename_i hnegative
    rw [if_pos hnegative.2]
  · rename_i hnegative
    rw [if_pos (by omega), if_neg (by omega)]

end DesktopTrial.Yaml
