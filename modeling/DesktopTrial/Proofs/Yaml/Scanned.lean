import DesktopTrial.Proofs.Yaml.Tokens

/-!
# The scan of a printed mapping

Every character that is printed may stand in a YAML text, and none is taken for a mark of
its encoding.  So the scan of a printed mapping gives its tokens.
-/

namespace DesktopTrial.Yaml

/-! ## Printed characters -/

/-- A character that may stand anywhere in a YAML text. -/
def isWritten (c : Char) : Bool := isAllowed c && c != '\ufeff'

theorem isWritten_of_isPrintable {c : Char} (hprintable : isPrintable c = true) :
    isWritten c = true := by
  rw [isWritten, Bool.and_eq_true, bne_iff_ne]
  constructor
  · simp only [isPrintable, Bool.or_eq_true, Bool.and_eq_true, decide_eq_true_eq, beq_iff_eq]
      at hprintable
    simp only [isAllowed, Bool.or_eq_true, Bool.and_eq_true, decide_eq_true_eq, beq_iff_eq]
    omega
  · rintro rfl
    cases hprintable

theorem all_isWritten_of_printable {text : List Char}
    (hprintable : ∀ c ∈ text, isPrintable c = true) : text.all isWritten = true :=
  List.all_eq_true.mpr fun c hc => isWritten_of_isPrintable (hprintable c hc)

theorem all_isWritten_spaces (n : Nat) : (spaces n).all isWritten = true := by
  rw [List.all_eq_true]
  intro c hc
  rw [List.eq_of_mem_replicate hc]
  decide

theorem all_isWritten_lead (atLineStart : Bool) (indent : Nat) :
    (if atLineStart then spaces indent else []).all isWritten = true := by
  cases atLineStart with
  | false => rfl
  | true => exact all_isWritten_spaces indent

theorem all_isWritten_upperHex (width n : Nat) : (upperHex width n).all isWritten = true := by
  induction width generalizing n with
  | zero => rfl
  | succ width ih =>
      have hdigit : ∀ d < 16, isWritten (upperHexDigit d) = true := by decide
      rw [upperHex, List.all_append, ih, List.all_cons, hdigit _ (Nat.mod_lt n (by decide))]
      rfl

theorem isWritten_escapeLetter {c letter : Char} (hletter : escapeLetterFor? c = some letter) :
    isWritten letter = true := by
  unfold escapeLetterFor? at hletter
  split at hletter
  all_goals cases hletter
  all_goals decide

theorem all_isWritten_escapeSequence (c : Char) : (escapeSequence c).all isWritten = true := by
  rw [escapeSequence, List.all_cons]
  have hmark : isWritten '\\' = true := by decide
  have hdigits {letter : Char} {width n : Nat} (hletter : isWritten letter = true) :
      (letter :: upperHex width n).all isWritten = true := by
    rw [List.all_cons, hletter, all_isWritten_upperHex]
    rfl
  rw [hmark, Bool.true_and]
  split
  · rename_i letter hletter
    rw [List.all_cons, isWritten_escapeLetter hletter]
    rfl
  · dsimp only
    split
    · exact hdigits (by decide)
    · split
      · exact hdigits (by decide)
      · exact hdigits (by decide)

theorem all_isWritten_doubleQuotedChar (c : Char) : (doubleQuotedChar c).all isWritten = true := by
  rw [doubleQuotedChar]
  split
  · exact all_isWritten_escapeSequence c
  · rename_i hverbatim
    simp only [Bool.or_eq_true, not_or, Bool.not_eq_true, Bool.not_eq_false'] at hverbatim
    rw [List.all_cons, isWritten_of_isPrintable hverbatim.1.1.1]
    rfl

theorem all_isWritten_singleQuotedTail {text : List Char} (indent : Nat) (atLineStart : Bool)
    (hprintable : ∀ c ∈ text, isPrintable c = true) :
    (singleQuotedTail indent atLineStart text).all isWritten = true := by
  induction text generalizing atLineStart with
  | nil =>
      have hquote : isWritten '\'' = true := by decide
      have hspaces := all_isWritten_spaces indent
      cases atLineStart <;> simp [singleQuotedTail, hspaces, hquote]
  | cons c text ih =>
      have hc := isWritten_of_isPrintable (hprintable c List.mem_cons_self)
      have hrest (atLineStart : Bool) := ih atLineStart fun d hd => hprintable d (List.mem_cons_of_mem _ hd)
      rw [singleQuotedTail]
      split
      · rw [List.all_cons, hc, hrest]
        rfl
      · have hchar : (if c = '\'' then ['\'', '\''] else [c]).all isWritten = true := by
          split
          · decide
          · rw [List.all_cons, hc]
            rfl
        rw [List.all_append, List.all_append, hchar, hrest, all_isWritten_lead]
        rfl

theorem all_isWritten_literalLines {text : List Char} (indent : Nat) (atLineStart : Bool)
    (hprintable : ∀ c ∈ text, isPrintable c = true) :
    (literalLines indent atLineStart text).all isWritten = true := by
  induction text generalizing atLineStart with
  | nil =>
      have hbreak : isWritten '\n' = true := by decide
      cases atLineStart <;> simp [literalLines, hbreak]
  | cons c text ih =>
      have hc := isWritten_of_isPrintable (hprintable c List.mem_cons_self)
      have hrest (atLineStart : Bool) := ih atLineStart fun d hd => hprintable d (List.mem_cons_of_mem _ hd)
      rw [literalLines]
      split
      · rw [List.all_cons, hc, hrest]
        rfl
      · rw [List.all_append, List.all_cons, hc, hrest, all_isWritten_lead]
        rfl

theorem all_isWritten_literalMark (text : List Char) : (literalMark text).all isWritten = true := by
  rw [literalMark_eq]
  cases needsHint text <;> cases chomping text <;> decide

theorem isPrintable_of_plainAllowed {text : List Char} (hallowed : plainAllowed text = true) :
    ∀ c ∈ text, isPrintable c = true := by
  intro c hc
  simp only [plainAllowed, hasUnprintable, Bool.and_eq_true, Bool.not_eq_true', List.any_eq_false]
    at hallowed
  simpa using hallowed.1.1.2 c hc

theorem all_isWritten_scalarLine (indent : Nat) (text : String) :
    (scalarLine indent text).all isWritten = true := by
  have hbreak : isWritten '\n' = true := by decide
  have hquote : isWritten '\'' = true := by decide
  rw [scalarLine]
  rcases presentation_cases text with ⟨hstyle, hallowed, -⟩ | ⟨hstyle, hquotable⟩ | hstyle |
    ⟨hstyle, hliteral, -⟩
  all_goals rw [hstyle]
  · simp only [List.all_append, all_isWritten_of_printable (isPrintable_of_plainAllowed hallowed),
      List.all_cons, List.all_nil, hbreak, Bool.and_self]
  · simp only [List.cons_append, List.all_cons, List.all_append, List.all_nil, hquote, hbreak,
      all_isWritten_singleQuotedTail indent false hquotable.printable, Bool.and_self]
  · have hwritten : doubleQuoted text.toList =
        '"' :: (text.toList.flatMap doubleQuotedChar ++ ['"']) := rfl
    have hmark : isWritten '"' = true := by decide
    have hchars : (text.toList.flatMap doubleQuotedChar).all isWritten = true := by
      rw [List.all_flatMap]
      exact List.all_eq_true.mpr fun c _ => all_isWritten_doubleQuotedChar c
    simp only [hwritten, List.cons_append, List.all_cons, List.all_append, List.all_nil, hmark, hchars,
      hbreak, Bool.and_self]
  · simp only [List.all_append, List.all_cons, all_isWritten_literalMark, hbreak,
      all_isWritten_literalLines indent true hliteral.printable, Bool.and_self]

theorem all_isWritten_restOfLine {word : List Char} (hword : word.all isWritten = true) :
    (restOfLine word).all isWritten = true := by
  have hspace : isWritten ' ' = true := by decide
  have hbreak : isWritten '\n' = true := by decide
  rw [restOfLine, List.cons_append, List.all_cons, List.all_append, hspace, hword, List.all_cons, hbreak]
  rfl

theorem isWritten_of_isWordChar {c : Char} (hc : isWordChar c = true) : isWritten c = true := by
  simp only [isWordChar, Char.isAlphanum, Char.isAlpha, Char.isUpper, Char.isLower, Char.isDigit,
    Bool.or_eq_true, Bool.and_eq_true, decide_eq_true_eq, beq_iff_eq, ge_iff_le,
    UInt32.le_iff_toNat_le] at hc
  rcases hc with (hletter | rfl) | rfl
  · change ((65 ≤ c.toNat ∧ c.toNat ≤ 90) ∨ (97 ≤ c.toNat ∧ c.toNat ≤ 122)) ∨
      (48 ≤ c.toNat ∧ c.toNat ≤ 57) at hletter
    have hrange : 0x20 ≤ c.toNat ∧ c.toNat ≤ 0x7E := by omega
    apply isWritten_of_isPrintable
    simp [isPrintable, hrange]
  all_goals decide

mutual

/-- Every printed character may stand in a text. -/
theorem all_isWritten_valueChars (indent : Nat) (opening : Opening) :
    ∀ document : Document, document.Proper →
      (valueChars indent opening document).all isWritten = true
  | .null, _ => all_isWritten_restOfLine (by decide)
  | .bool value, _ => all_isWritten_restOfLine (by cases value <;> decide)
  | .integer value, _ => all_isWritten_restOfLine
      (all_isWritten_of_printable (isPrintable_of_plainAllowed (plainAllowed_ofInt value)))
  | .float value, _ => all_isWritten_restOfLine
      (all_isWritten_of_printable (isPrintable_of_plainAllowed (plainAllowed_text value).1))
  | .text value, _ => by
      have hline := all_isWritten_scalarLine (indent + 2) value
      rw [valueChars, List.all_cons, hline]
      decide
  | .sequence [], _ => all_isWritten_restOfLine (by decide)
  | .sequence (item :: rest), hproper => by
      have hitems (indent : Nat) (inline : Bool) :=
        all_isWritten_itemsChars indent inline (item :: rest) hproper
      cases opening <;> rw [valueChars, List.all_cons, hitems] <;> decide
  | .mapping [], _ => all_isWritten_restOfLine (by decide)
  | .mapping (member :: rest), hproper => by
      have hmembers (indent : Nat) (inline : Bool) :=
        all_isWritten_membersChars indent inline (member :: rest) hproper
      cases opening <;> rw [valueChars, List.all_cons, hmembers] <;> decide
  | .variant name content, hproper => by
      have hcontent := all_isWritten_valueChars indent
        (if opening = .afterMark then .afterTag else opening) content hproper.2.2
      have hname : name.toList.all isWritten = true := by
        rw [List.all_eq_true]
        intro c hc
        exact isWritten_of_isWordChar (List.all_eq_true.mp hproper.1.2 c hc)
      simp only [valueChars, List.cons_append, List.all_cons, List.all_append, hcontent, hname]
      decide

theorem all_isWritten_itemsChars (indent : Nat) (inline : Bool) :
    ∀ items : List Document, Document.ProperItems items →
      (itemsChars indent inline items).all isWritten = true
  | [], _ => rfl
  | item :: rest, hproper => by
      have hitem := all_isWritten_valueChars indent .afterMark item hproper.1
      have hrest := all_isWritten_itemsChars indent false rest hproper.2
      have hmark : isWritten '-' = true := by decide
      have hspaces := all_isWritten_spaces indent
      cases inline <;> simp only [itemsChars, Bool.false_eq_true, if_false, if_true, List.all_append,
        List.all_cons, hitem, hrest, hmark, hspaces, Bool.and_self, List.nil_append]

theorem all_isWritten_membersChars (indent : Nat) (inline : Bool) :
    ∀ members : List (String × Document), Document.ProperMembers members →
      (membersChars indent inline members).all isWritten = true
  | [], _ => rfl
  | (key, value) :: rest, hproper => by
      have hvalue (opening : Opening) := all_isWritten_valueChars indent opening value hproper.1
      have hrest := all_isWritten_membersChars indent false rest hproper.2
      have hspaces := all_isWritten_spaces indent
      have hkey := all_isWritten_scalarLine (indent + 2) key
      have hsimple : (scalarLine (indent + 2) key).dropLast.all isWritten = true := by
        rw [List.all_eq_true] at hkey ⊢
        exact fun c hc => hkey c (List.dropLast_subset _ hc)
      have hmarks : isWritten ':' = true ∧ isWritten '?' = true ∧ isWritten ' ' = true := by decide
      have hlead : (if inline then [] else spaces indent).all isWritten = true := by
        cases inline with
        | false => exact hspaces
        | true => rfl
      rw [membersChars, List.all_append, List.all_append, hlead, hrest]
      cases isSimpleKey key <;>
        simp only [Bool.false_eq_true, if_false, if_true, List.cons_append, List.all_append,
          List.all_cons, hkey, hsimple, hvalue, hspaces, hmarks, Bool.and_self]

end

/-! ## The scan -/

/-- A text of allowed characters is scanned from its first one, unless that is the byte order
mark. -/
theorem scan?_eq_run? {text : List Char} (hallowed : text.all isAllowed = true)
    (hmark : ∀ rest, text ≠ '\ufeff' :: rest) :
    scan? text = (Scan.start text).run? (text.length + 1) := by
  unfold scan?
  rw [if_pos hallowed]
  split
  · exact absurd rfl (hmark _)
  · rfl

/-- The scan of a printed mapping gives its tokens. -/
theorem scan?_print {member : String × Document} {members : List (String × Document)}
    (hproper : Document.ProperMembers (member :: members)) :
    scan? (print (.mapping (member :: members))).toList =
      some ((Document.mapping (member :: members)).tokens .afterTag) := by
  have htext : (print (.mapping (member :: members))).toList =
      membersChars 0 true (member :: members) := by
    rw [print, String.toList_ofList]
  have hwritten := all_isWritten_membersChars 0 true (member :: members) hproper
  have hallowed : (membersChars 0 true (member :: members)).all isAllowed = true := by
    rw [List.all_eq_true] at hwritten ⊢
    intro c hc
    have hc := hwritten c hc
    rw [isWritten, Bool.and_eq_true] at hc
    exact hc.1
  have hlast : Scan.Ends [] 0 ((Document.tokensOfMembers (member :: members)).reverse ++
      [.blockMappingStart]) [0] ((Document.mapping (member :: members)).tokens .afterTag) := by
    have hends : Scan.Ends [] 0 ((Document.tokensOfMembers (member :: members)).reverse ++
        [.blockMappingStart]) [0] _ := Scan.Ends.last
    simpa only [List.reverse_append, List.reverse_reverse, List.reverse_singleton,
      List.cons_append, List.nil_append, Document.tokens] using hends
  have hless : ∀ m ∈ ([] : List Nat).head?, m < 0 := by
    intro m hm
    cases hm
  obtain ⟨hopens, hends⟩ := ends_mapping (foundMembers (member :: members) hproper) hless
    (hlast.continues .nil)
  rw [spaces, List.replicate_zero, List.append_nil, List.append_nil] at hopens hends
  have hnone : ∀ k ∈ (none : Option KeyCandidate), k.required = false ∧ k.line < 0 := by
    intro k hk
    cases hk
  have hfinds : (Scan.start (membersChars 0 true (member :: members))).Finds
      ((Document.mapping (member :: members)).tokens .afterTag) := hends.finds hopens rfl rfl hnone
  have hmark : ∀ rest, membersChars 0 true (member :: members) ≠ '\ufeff' :: rest := by
    intro rest hrest
    rw [hrest, List.all_cons] at hwritten
    cases hwritten
  rw [htext, scan?_eq_run? hallowed hmark]
  exact hfinds _ (Nat.lt_succ_self _)

end DesktopTrial.Yaml
