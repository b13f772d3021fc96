import DesktopTrial.Json.Reader
import DesktopTrial.Locator.Expression

/-!
# Literals in front of other text

String literals, values of CSS attributes and natural numbers say where they end.  So a
literal with other text behind it can be told from any other literal, and what stands
behind it is known as well.
-/

namespace DesktopTrial

/-! ## String literals -/

namespace Json

/-- The four digits of an escaped control character are its number. -/
theorem hexUnit?_control :
    ∀ n, n < 0x20 → hexUnit? '0' '0' (hexDigit (n / 16)) (hexDigit (n % 16)) = some n := by
  decide

/-- An escaped character is read back as the character. -/
theorem readUnits?_escapeChar (c : Char) (rest : List Char) :
    readUnits? (escapeChar c ++ rest) =
      (readUnits? rest).map fun result => (c.toNat :: result.1, result.2) := by
  unfold escapeChar
  split
  -- The last case is that of the characters without a short escape.
  case h_8 =>
    split
    · rename_i hcontrol
      have hunit := hexUnit?_control c.toNat hcontrol
      cases hrest : readUnits? rest <;> simp [readUnits?, hunit, hrest]
    · rename_i hcontrol
      rw [List.singleton_append, readUnits?]
      · simp [hcontrol]
      all_goals simp_all
  all_goals cases hrest : readUnits? rest <;> simp [readUnits?, escaped?, hrest]

theorem readUnits?_stringChars (text rest : List Char) :
    readUnits? (text.flatMap escapeChar ++ '"' :: rest) = some (text.map Char.toNat, rest) := by
  induction text with
  | nil => rfl
  | cons c text ih =>
      rw [List.flatMap_cons, List.append_assoc, readUnits?_escapeChar, ih, Option.map_some,
        List.map_cons]

/-- No character is half of a surrogate pair. -/
theorem joinUnits?_map_toNat (text : List Char) :
    joinUnits? (text.map Char.toNat) = some text := by
  induction text with
  | nil => rfl
  | cons c text ih =>
      have hscalar : c.toNat < 0xD800 ∨ 0xDFFF < c.toNat := c.valid.imp_right And.left
      rw [List.map_cons, joinUnits?.eq_def]
      dsimp only
      rw [if_neg (by omega), if_neg (by omega), ih, Option.map_some, Char.ofNat_toNat]

/-- Behind its opening quote, a string literal is read back as its text. -/
theorem readString?_stringChars (text : String) (rest : List Char) :
    readString? (text.toList.flatMap escapeChar ++ '"' :: rest) = some (some text, rest) := by
  rw [readString?, readUnits?_stringChars, Option.map_some, joinUnits?_map_toNat, Option.map_some,
    String.ofList_toList]

theorem stringText_append_inj {text text' : String} {rest rest' : List Char}
    (hsame : (stringText text).toList ++ rest = (stringText text').toList ++ rest') :
    text = text' ∧ rest = rest' := by
  simp only [stringText, stringChars, String.toList_ofList, List.cons_append, List.append_assoc,
    List.cons.injEq, true_and] at hsame
  have hread := congrArg readString? hsame
  rw [readString?_stringChars, readString?_stringChars] at hread
  simpa using hread

end Json

/-! ## Values of CSS attributes -/

/-- The closing quote is the first one that is not escaped. -/
theorem attributeChars_append_inj {text text' rest rest' : List Char}
    (hsame : attributeChars text ++ '"' :: rest = attributeChars text' ++ '"' :: rest') :
    text = text' ∧ rest = rest' := by
  induction text generalizing text' with
  | nil =>
      cases text' with
      | nil => simpa [attributeChars] using hsame
      | cons c text' =>
          rw [attributeChars, attributeChars] at hsame
          grind
  | cons c text ih =>
      cases text' with
      | nil =>
          rw [attributeChars, attributeChars] at hsame
          grind
      | cons d text' =>
          rw [attributeChars, attributeChars] at hsame
          grind

theorem attributeValue_append_inj {text text' : String} {rest rest' : List Char}
    (hsame : (attributeValue text).toList ++ rest = (attributeValue text').toList ++ rest') :
    text = text' ∧ rest = rest' := by
  simp only [attributeValue, String.toList_ofList, List.cons_append, List.append_assoc,
    List.nil_append, List.cons.injEq, true_and] at hsame
  obtain ⟨htext, hrest⟩ := attributeChars_append_inj hsame
  exact ⟨String.toList_inj.mp htext, hrest⟩

/-! ## Natural numbers -/

theorem isDigit_of_mem_showNat {n : Nat} {c : Char} (hmember : c ∈ (showNat n).toList) :
    c.isDigit = true := by
  rw [showNat, Decimal.ofNat, String.toList_ofList] at hmember
  exact Nat.isDigit_of_mem_toDigits (b := 10) (by decide) (by decide) hmember

/-- A number begins with a digit. -/
theorem showNat_append_ne {n : Nat} {c : Char} {rest rest' : List Char}
    (hother : c.isDigit = false) : (showNat n).toList ++ rest ≠ c :: rest' := by
  intro hsame
  cases hdigits : (showNat n).toList with
  | nil => simp [showNat, Decimal.ofNat, Decimal.digits] at hdigits
  | cons digit digits =>
      rw [hdigits, List.cons_append] at hsame
      have hmember : c ∈ (showNat n).toList := by
        rw [hdigits, ← (List.cons.inj hsame).1]
        exact List.mem_cons_self
      rw [isDigit_of_mem_showNat hmember] at hother
      cases hother

theorem showNat_injective : Function.Injective showNat := by
  intro n m hsame
  have hvalue := congrArg (fun text => Nat.ofDigitChars 10 text.toList 0) hsame
  simpa [showNat, Decimal.ofNat, Decimal.digits, Nat.ofDigitChars_ten_toDigits] using hvalue

/-- A number ends at the first character that is no digit. -/
theorem takeWhile_showNat (n : Nat) {c : Char} (hend : c.isDigit = false) (rest : List Char) :
    ((showNat n).toList ++ c :: rest).takeWhile Char.isDigit = (showNat n).toList := by
  rw [List.takeWhile_append_of_pos fun _ => isDigit_of_mem_showNat,
    List.takeWhile_cons_of_neg (by simp [hend]), List.append_nil]

theorem showNat_append_inj {n m : Nat} {c : Char} {rest rest' : List Char}
    (hend : c.isDigit = false)
    (hsame : (showNat n).toList ++ c :: rest = (showNat m).toList ++ c :: rest') :
    n = m ∧ rest = rest' := by
  have hdigits := congrArg (List.takeWhile Char.isDigit) hsame
  rw [takeWhile_showNat n hend, takeWhile_showNat m hend] at hdigits
  rw [hdigits] at hsame
  exact ⟨showNat_injective (String.toList_inj.mp hdigits),
    List.tail_eq_of_cons_eq (List.append_cancel_left hsame)⟩

end DesktopTrial
