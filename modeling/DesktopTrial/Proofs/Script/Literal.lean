import DesktopTrial.Proofs.Text.Literals

/-!
# String literals of scripts

A string literal of JavaScript, in double quotes, as a script reads it: its line must not end
inside it, and a backslash opens an escape.  Every JSON string is such a literal and has the
same value in both languages, so a text that is written as a literal is what a script reads.
-/

namespace DesktopTrial.Script

/-- The characters that end a line of a script. -/
def endsLine (c : Char) : Bool := c == '\n' || c == '\r' || c == '\u2028' || c == '\u2029'

/-- What a character behind a backslash stands for; most stand for themselves. -/
def escapedChar (c : Char) : Char :=
  match c with
  | 'b' => '\x08'
  | 'f' => '\x0c'
  | 'n' => '\n'
  | 'r' => '\r'
  | 't' => '\t'
  | 'v' => '\x0b'
  | c => c

/-- A code point up to its closing brace, where `point` is read already, and the text behind it. -/
def readPoint? (point : Nat) : List Char → Option (Nat × List Char)
  | [] => none
  | c :: rest =>
      if c = '\x7d' then if point ≤ 0x10FFFF then some (point, rest) else none
      else (Json.hexValue? c).bind fun digit => readPoint? (point * 16 + digit) rest

/-- The units that an escape stands for, read behind its backslash, and the text behind it.  The
end of a line stands for nothing, and a zero for its character unless more digits follow. -/
def readEscape? : List Char → Option (List Nat × List Char)
  | '\r' :: '\n' :: rest => some ([], rest)
  | 'x' :: a :: b :: rest => (Json.hexUnit? '0' '0' a b).map fun unit => ([unit], rest)
  | 'u' :: '\x7b' :: c :: rest =>
      (Json.hexValue? c).bind fun digit =>
        (readPoint? digit rest).map fun result => ([result.1], result.2)
  | 'u' :: a :: b :: c :: d :: rest => (Json.hexUnit? a b c d).map fun unit => ([unit], rest)
  | c :: rest =>
      if c = 'x' ∨ c = 'u' then none
      else if c.isDigit then
        if c = '0' ∧ ¬rest.head?.any Char.isDigit then some ([0], rest) else none
      else if endsLine c then some ([], rest)
      else some ([(escapedChar c).toNat], rest)
  | [] => none

theorem length_le_of_readPoint? {point value : Nat} {text rest : List Char}
    (hread : readPoint? point text = some (value, rest)) : rest.length ≤ text.length := by
  induction text generalizing point with
  | nil => cases hread
  | cons c text ih =>
      rw [readPoint?] at hread
      split at hread
      · split at hread
        · cases hread
          exact Nat.le_succ _
        · cases hread
      · obtain ⟨digit, -, hbehind⟩ := Option.bind_eq_some_iff.mp hread
        exact Nat.le_succ_of_le (ih hbehind)

/-- An escape is read off the front of the text. -/
theorem length_le_of_readEscape? {text rest : List Char} {units : List Nat}
    (hread : readEscape? text = some (units, rest)) : rest.length ≤ text.length := by
  unfold readEscape? at hread
  split at hread
  case h_3 =>
    obtain ⟨digit, -, hpoint⟩ := Option.bind_eq_some_iff.mp hread
    obtain ⟨⟨point, behind⟩, hbraced, hsame⟩ := Option.map_eq_some_iff.mp hpoint
    cases hsame
    have hbehind := length_le_of_readPoint? hbraced
    simp only [List.length_cons]
    omega
  all_goals grind [Option.map_eq_some_iff]

/-- The units of a literal up to its closing quote, and the text behind it. -/
def readUnits? : List Char → Option (List Nat × List Char)
  | [] => none
  | c :: rest =>
      if c = '"' then some ([], rest)
      else if c = '\\' then
        match _ : readEscape? rest with
        | none => none
        | some (units, behind) =>
            (readUnits? behind).map fun result => (units ++ result.1, result.2)
      else if c = '\n' ∨ c = '\r' then none
      else (readUnits? rest).map fun result => (c.toNat :: result.1, result.2)
termination_by text => text.length
decreasing_by
  · exact Nat.lt_succ_of_le (length_le_of_readEscape? ‹_›)
  · exact Nat.lt_succ_self _

/-- A literal in double quotes and the text behind it.  Halves of surrogate pairs denote no
text unless they meet. -/
def readLiteral? : List Char → Option (String × List Char)
  | '"' :: rest =>
      (readUnits? rest).bind fun result =>
        (Json.joinUnits? result.1).map fun text => (String.ofList text, result.2)
  | _ => none

/-! ## JSON strings -/

variable {text rest : List Char} {units : List Nat}

/-- An escape of one letter in JSON. -/
theorem readEscape?_of_escaped? {c d : Char} (hescaped : Json.escaped? c = some d) :
    readEscape? (c :: rest) = some ([d.toNat], rest) := by
  unfold Json.escaped? at hescaped
  split at hescaped <;> cases hescaped
  all_goals simp [readEscape?, escapedChar, endsLine]

/-- An escape of four digits in JSON. -/
theorem readEscape?_of_hexUnit? {a b c d : Char} {unit : Nat}
    (hunit : Json.hexUnit? a b c d = some unit) :
    readEscape? ('u' :: a :: b :: c :: d :: rest) = some ([unit], rest) := by
  have hbrace : a ≠ '\x7b' := by
    rintro rfl
    cases hunit
  rw [readEscape?, hunit, Option.map_some]
  simpa using hbrace

/-- Behind an escape, the units go on with those of the text behind it. -/
theorem readUnits?_escape {behind : List Char}
    (hescape : readEscape? text = some (units, behind)) :
    readUnits? ('\\' :: text) =
      (readUnits? behind).map fun result => (units ++ result.1, result.2) := by
  rw [readUnits?, if_neg (by decide), if_pos rfl]
  split
  case h_1 hnone =>
    rw [hescape] at hnone
    cases hnone
  case h_2 hsome =>
    rw [hescape] at hsome
    cases hsome
    rfl

/-- Other characters than quotes, backslashes and the ends of lines stand for themselves. -/
theorem readUnits?_plain {c : Char} (hquote : c ≠ '"') (hescape : c ≠ '\\')
    (hline : ¬(c = '\n' ∨ c = '\r')) :
    readUnits? (c :: text) =
      (readUnits? text).map fun result => (c.toNat :: result.1, result.2) := by
  rw [readUnits?, if_neg hquote, if_neg hescape, if_neg hline]

/-- What is a string in JSON is a literal with the same units. -/
theorem readUnits?_of_json (hjson : Json.readUnits? text = some (units, rest)) :
    readUnits? text = some (units, rest) := by
  fun_induction Json.readUnits? text generalizing units rest with
  | case1 => cases hjson
  | case2 behind =>
      rw [readUnits?, if_pos rfl]
      exact hjson
  | case3 a b c d behind unit more after hmore hunit ih =>
      rw [readUnits?_escape (readEscape?_of_hexUnit? hunit), ih hmore]
      exact hjson
  | case4 => cases hjson
  | case5 c behind hother d more after hmore hescaped ih =>
      rw [readUnits?_escape (readEscape?_of_escaped? hescaped), ih hmore]
      exact hjson
  | case6 => cases hjson
  | case7 => cases hjson
  | case8 c behind hquote hunit hescape hcontrol ih =>
      obtain ⟨⟨more, after⟩, hmore, hsame⟩ := Option.map_eq_some_iff.mp hjson
      -- A backslash could only be the last character, and then the string would not end.
      have hbackslash : c ≠ '\\' := by
        rintro rfl
        cases behind with
        | nil => cases hmore
        | cons d behind => exact hescape d behind rfl rfl
      have hline : ¬(c = '\n' ∨ c = '\r') := by
        rintro (rfl | rfl) <;> exact hcontrol (by decide)
      rw [readUnits?_plain hquote hbackslash hline, ih hmore, Option.map_some, hsame]

/-- A text that is written as a literal is read back, whatever follows. -/
theorem readLiteral?_scriptLiteral (text : String) (rest : List Char) :
    readLiteral? ((scriptLiteral text).toList ++ rest) = some (text, rest) := by
  have hunits := readUnits?_of_json (Json.readUnits?_stringChars text.toList rest)
  simp only [scriptLiteral, Json.stringText, Json.stringChars, String.toList_ofList,
    List.cons_append, List.append_assoc, List.nil_append]
  rw [readLiteral?, hunits, Option.bind_some, Json.joinUnits?_map_toNat, Option.map_some,
    String.ofList_toList]

end DesktopTrial.Script
