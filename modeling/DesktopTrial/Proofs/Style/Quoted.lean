import DesktopTrial.Proofs.Text.Literals

/-!
# Strings of style sheets

A string of CSS, in double quotes, as a selector is read: a backslash opens an escape, and a
line that ends inside the string makes it a bad one.  The value of an attribute is written with
an escape for each quote and each backslash, and none for the end of a line.  So it is read back
as the text that it was written for just when no line ends in that text.
-/

namespace DesktopTrial.Style

def endsLine (c : Char) : Bool := c == '\n' || c == '\r' || c == '\x0c'

/-- Behind one blank or one end of a line, if the text begins with one. -/
def skipBlank : List Char → List Char
  | '\r' :: '\n' :: rest => rest
  | c :: rest => if c = ' ' ∨ c = '\t' ∨ endsLine c then rest else c :: rest
  | [] => []

/-- The mark that stands for what is no character. -/
def replacement : Char := '\ufffd'

/-- The character at a code point.  The one at zero is replaced like what is none. -/
def pointChar (point : Nat) : Char :=
  if point = 0 ∨ ¬point.isValidChar then replacement else Char.ofNat point

/-- The character of a code point in hexadecimal digits, of which `point` is read already and up
to `left` may follow, and the text behind it.  One blank may mark the end of the digits. -/
def readPoint (point : Nat) : (left : Nat) → List Char → Char × List Char
  | left + 1, c :: rest =>
      match Json.hexValue? c with
      | some digit => readPoint (point * 16 + digit) left rest
      | none => (pointChar point, skipBlank (c :: rest))
  | _, text => (pointChar point, skipBlank text)

/-- The characters that an escape stands for, read behind its backslash, and the text behind it.
The end of a line stands for nothing, and what is no digit for itself. -/
def readEscape? : List Char → Option (List Char × List Char)
  | [] => none
  | c :: rest =>
      match Json.hexValue? c with
      | some digit => some ([(readPoint digit 5 rest).1], (readPoint digit 5 rest).2)
      | none => if endsLine c then some ([], skipBlank (c :: rest)) else some ([c], rest)

theorem length_skipBlank_le (text : List Char) : (skipBlank text).length ≤ text.length := by
  unfold skipBlank
  split
  · simp only [List.length_cons]
    omega
  · split <;> simp
  · exact Nat.le_refl _

theorem length_readPoint_le (point left : Nat) (text : List Char) :
    (readPoint point left text).2.length ≤ text.length := by
  induction text generalizing point left with
  | nil => cases left <;> exact length_skipBlank_le []
  | cons c rest ih =>
      cases left with
      | zero => exact length_skipBlank_le (c :: rest)
      | succ left =>
          rw [readPoint]
          split
          · exact Nat.le_succ_of_le (ih _ _)
          · exact length_skipBlank_le (c :: rest)

theorem length_le_of_readEscape? {text rest chars : List Char}
    (hread : readEscape? text = some (chars, rest)) : rest.length ≤ text.length := by
  cases text with
  | nil => cases hread
  | cons c text =>
      rw [readEscape?] at hread
      split at hread
      · cases hread
        exact Nat.le_succ_of_le (length_readPoint_le _ _ _)
      · split at hread <;> cases hread
        · exact length_skipBlank_le (c :: text)
        · exact Nat.le_succ _

/-- The characters of a string up to its closing quote, and the text behind it. -/
def readChars? : List Char → Option (List Char × List Char)
  | [] => none
  | c :: rest =>
      if c = '"' then some ([], rest)
      else if c = '\\' then
        match _ : readEscape? rest with
        | none => none
        | some (chars, behind) =>
            (readChars? behind).map fun result => (chars ++ result.1, result.2)
      else if endsLine c then none
      else (readChars? rest).map fun result => (c :: result.1, result.2)
termination_by text => text.length
decreasing_by
  · exact Nat.lt_succ_of_le (length_le_of_readEscape? ‹_›)
  · exact Nat.lt_succ_self _

/-- A string in double quotes and the text behind it. -/
def readString? : List Char → Option (String × List Char)
  | '"' :: rest => (readChars? rest).map fun result => (String.ofList result.1, result.2)
  | _ => none

/-- What a style sheet is read from in place of a character. -/
def filteredChar (c : Char) : Char :=
  if endsLine c then '\n' else if c = '\x00' then replacement else c

/-- The characters that a style sheet is read from: all ends of lines are the same, and the
character at zero is replaced. -/
def filtered : List Char → List Char
  | [] => []
  | '\r' :: '\n' :: rest => '\n' :: filtered rest
  | c :: rest => filteredChar c :: filtered rest

/-! ## Reading characters -/

variable {c : Char} {text front back : List Char}

theorem readChars?_quote (rest : List Char) : readChars? ('"' :: rest) = some ([], rest) := by
  rw [readChars?, if_pos rfl]

theorem readChars?_plain (hquote : c ≠ '"') (hescape : c ≠ '\\') (hline : endsLine c = false)
    (rest : List Char) :
    readChars? (c :: rest) = (readChars? rest).map fun result => (c :: result.1, result.2) := by
  rw [readChars?, if_neg hquote, if_neg hescape, hline, if_neg Bool.false_ne_true]

/-- The end of a line is neither a quote nor a backslash. -/
theorem plain_of_endsLine (hline : endsLine c = true) : c ≠ '"' ∧ c ≠ '\\' := by
  refine ⟨?_, ?_⟩ <;> rintro rfl <;> cases hline

theorem readChars?_endsLine (hline : endsLine c = true) (rest : List Char) :
    readChars? (c :: rest) = none := by
  obtain ⟨hquote, hescape⟩ := plain_of_endsLine hline
  rw [readChars?, if_neg hquote, if_neg hescape, if_pos hline]

/-- What is neither a digit nor the end of a line stands for itself behind a backslash. -/
theorem readChars?_escaped (hdigit : Json.hexValue? c = none) (hline : endsLine c = false)
    (rest : List Char) :
    readChars? ('\\' :: c :: rest) =
      (readChars? rest).map fun result => (c :: result.1, result.2) := by
  have hescape : readEscape? (c :: rest) = some ([c], rest) := by
    simp [readEscape?, hdigit, hline]
  rw [readChars?, if_neg (by decide), if_pos rfl]
  split
  case h_1 hnone => rw [hescape] at hnone; cases hnone
  case h_2 hsome => rw [hescape] at hsome; cases hsome; rfl

/-! ## Values of attributes -/

theorem attributeChars_plain (hquote : c ≠ '"') (hescape : c ≠ '\\') (text : List Char) :
    attributeChars (c :: text) = c :: attributeChars text := by
  rw [attributeChars, if_neg hescape, if_neg hquote]

theorem attributeChars_append (text text' : List Char) :
    attributeChars (text ++ text') = attributeChars text ++ attributeChars text' := by
  induction text with
  | nil => rfl
  | cons c text ih =>
      rw [List.cons_append, attributeChars, attributeChars, ih]
      split
      · rfl
      · split <;> rfl

/-- A character that ends no line is read as it was written. -/
theorem readChars?_attributeChars_cons (hline : endsLine c = false) (text rest : List Char) :
    readChars? (attributeChars (c :: text) ++ rest) =
      (readChars? (attributeChars text ++ rest)).map fun result => (c :: result.1, result.2) := by
  -- The two characters that are written with an escape are no digits, so each stands for itself.
  rw [attributeChars]
  split
  case isTrue hescape =>
    subst hescape
    exact readChars?_escaped (by decide) (by decide) _
  case isFalse hescape =>
    split
    case isTrue hquote =>
      subst hquote
      exact readChars?_escaped (by decide) (by decide) _
    case isFalse hquote => exact readChars?_plain hquote hescape hline _

/-- A text in which no line ends is read as it was written, whatever follows. -/
theorem readChars?_attributeChars (hlines : ∀ c ∈ text, endsLine c = false) (rest : List Char) :
    readChars? (attributeChars text ++ rest) =
      (readChars? rest).map fun result => (text ++ result.1, result.2) := by
  induction text with
  | nil => simp [attributeChars]
  | cons c text ih =>
      obtain ⟨hline, hbehind⟩ := List.forall_mem_cons.mp hlines
      calc
        readChars? (attributeChars (c :: text) ++ rest) =
            (readChars? (attributeChars text ++ rest)).map
              fun result => (c :: result.1, result.2) :=
          readChars?_attributeChars_cons hline text rest
        _ = ((readChars? rest).map fun result => (text ++ result.1, result.2)).map
              fun result => (c :: result.1, result.2) := by
          rw [ih hbehind]
        _ = (readChars? rest).map fun result => (c :: text ++ result.1, result.2) :=
          Option.map_map _ _ _

/-- The first end of a line in a text makes a bad string of it. -/
theorem readChars?_attributeChars_line (hfront : ∀ d ∈ front, endsLine d = false)
    (hline : endsLine c = true) (rest : List Char) :
    readChars? (attributeChars (front ++ c :: back) ++ rest) = none := by
  obtain ⟨hquote, hescape⟩ := plain_of_endsLine hline
  rw [attributeChars_append, attributeChars_plain hquote hescape, List.append_assoc,
    readChars?_attributeChars hfront, List.cons_append, readChars?_endsLine hline, Option.map_none]

/-! ## Filtered characters -/

theorem filtered_cons (hline : endsLine c = false) (rest : List Char) :
    filtered (c :: rest) = filteredChar c :: filtered rest := by
  rw [filtered]
  rintro behind rfl
  cases hline

/-- Filtering ends a line where one ended before. -/
theorem filtered_endsLine (hline : endsLine c = true) (rest : List Char) :
    ∃ behind, filtered (c :: rest) = '\n' :: behind := by
  unfold filtered
  split
  case h_1 hnil => cases hnil
  case h_2 => exact ⟨_, rfl⟩
  case h_3 hsame =>
    cases hsame
    exact ⟨_, by rw [filteredChar, if_pos hline]⟩

/-- It ends no other lines. -/
theorem endsLine_filteredChar (hline : endsLine c = false) : endsLine (filteredChar c) = false := by
  rw [filteredChar, hline, if_neg Bool.false_ne_true]
  split
  · decide
  · exact hline

/-- It makes no quotes and no backslashes. -/
theorem filteredChar_plain (hquote : c ≠ '"') (hescape : c ≠ '\\') :
    filteredChar c ≠ '"' ∧ filteredChar c ≠ '\\' := by
  unfold filteredChar
  split
  · decide
  · split
    · decide
    · exact ⟨hquote, hescape⟩

/-- A text in which no line ends is filtered character by character. -/
theorem filtered_attributeChars (hlines : ∀ c ∈ text, endsLine c = false) (rest : List Char) :
    filtered (attributeChars text ++ rest) =
      attributeChars (text.map filteredChar) ++ filtered rest := by
  induction text with
  | nil => rfl
  | cons c text ih =>
      obtain ⟨hline, hbehind⟩ := List.forall_mem_cons.mp hlines
      by_cases hescape : c = '\\'
      · subst hescape
        change filtered ('\\' :: '\\' :: (attributeChars text ++ rest)) = _
        rw [filtered_cons hline, filtered_cons hline, ih hbehind]
        rfl
      · by_cases hquote : c = '"'
        · subst hquote
          change filtered ('\\' :: '"' :: (attributeChars text ++ rest)) = _
          rw [filtered_cons (by decide), filtered_cons hline, ih hbehind]
          rfl
        · obtain ⟨hquote', hescape'⟩ := filteredChar_plain hquote hescape
          rw [attributeChars_plain hquote hescape, List.cons_append, filtered_cons hline,
            ih hbehind, List.map_cons, attributeChars_plain hquote' hescape', List.cons_append]

/-- Filtering leaves a bad string bad. -/
theorem readChars?_filtered_line (hfront : ∀ d ∈ front, endsLine d = false)
    (hline : endsLine c = true) (rest : List Char) :
    readChars? (filtered (attributeChars (front ++ c :: back) ++ rest)) = none := by
  obtain ⟨hquote, hescape⟩ := plain_of_endsLine hline
  obtain ⟨behind, hbehind⟩ := filtered_endsLine hline (attributeChars back ++ rest)
  have hfiltered : ∀ d ∈ front.map filteredChar, endsLine d = false := by
    simpa using fun d hmember => endsLine_filteredChar (hfront d hmember)
  rw [attributeChars_append, attributeChars_plain hquote hescape, List.append_assoc,
    filtered_attributeChars hfront, readChars?_attributeChars hfiltered, List.cons_append, hbehind,
    readChars?_endsLine (by decide), Option.map_none]

/-! ## Strings -/

theorem toList_attributeValue_append (text : String) (rest : List Char) :
    (attributeValue text).toList ++ rest = '"' :: (attributeChars text.toList ++ '"' :: rest) := by
  simp [attributeValue]

/-- Either no line ends in a text, or there is a first place where one ends. -/
theorem lines_cases (text : List Char) :
    (text.any endsLine = false ∧ ∀ c ∈ text, endsLine c = false) ∨
    (text.any endsLine = true ∧ ∃ front c back, text = front ++ c :: back ∧
      (∀ d ∈ front, endsLine d = false) ∧ endsLine c = true) := by
  cases hfind : text.find? endsLine with
  | none =>
      have hlines : ∀ c ∈ text, endsLine c = false := by
        simpa using List.find?_eq_none.mp hfind
      exact .inl ⟨List.any_eq_false.mpr (by simpa using hlines), hlines⟩
  | some c =>
      obtain ⟨hline, front, back, rfl, hfront⟩ := List.find?_eq_some_iff_append.mp hfind
      refine .inr ⟨?_, front, c, back, rfl, by simpa using hfront, hline⟩
      exact List.any_eq_true.mpr ⟨c, by simp, hline⟩

/-- The value of an attribute is read back as the text that it was written for, unless a line
ends in that text, and then it is no string. -/
theorem readString?_attributeValue (text : String) (rest : List Char) :
    readString? ((attributeValue text).toList ++ rest) =
      if text.toList.any endsLine then none else some (text, rest) := by
  rw [toList_attributeValue_append, readString?]
  obtain ⟨hany, hlines⟩ | ⟨hany, front, c, back, htext, hfront, hline⟩ :=
    lines_cases text.toList
  · rw [readChars?_attributeChars hlines, readChars?_quote, hany]
    simp
  · rw [htext, readChars?_attributeChars_line hfront hline, ← htext, hany]
    rfl

/-- From filtered characters the value of an attribute is read back as the filtered text, unless
a line ends in the text. -/
theorem readString?_filtered (text : String) (rest : List Char) :
    readString? (filtered ((attributeValue text).toList ++ rest)) =
      if text.toList.any endsLine then none
      else some (String.ofList (text.toList.map filteredChar), filtered rest) := by
  rw [toList_attributeValue_append, filtered_cons (by decide)]
  change (readChars? _).map _ = _
  obtain ⟨hany, hlines⟩ | ⟨hany, front, c, back, htext, hfront, hline⟩ :=
    lines_cases text.toList
  · have hfiltered : ∀ d ∈ text.toList.map filteredChar, endsLine d = false := by
      simpa using fun d hmember => endsLine_filteredChar (hlines d hmember)
    have hquote : filtered ('"' :: rest) = '"' :: filtered rest := filtered_cons (by decide) rest
    rw [filtered_attributeChars hlines, readChars?_attributeChars hfiltered, hquote,
      readChars?_quote, hany]
    simp
  · rw [htext, readChars?_filtered_line hfront hline, ← htext, hany]
    rfl

end DesktopTrial.Style
