import DesktopTrial.Proofs.Yaml.Literal
import DesktopTrial.Proofs.Yaml.Marks
import DesktopTrial.Proofs.Yaml.Quoted
import DesktopTrial.Yaml.Printer

/-!
# Scalars are found on their lines

A scalar ends its line when it is a value, and is followed by a colon when it is a key.
-/

namespace DesktopTrial.Yaml

open Text (Stops)

variable {p : Place} {rest text : List Char} {tokens tokens' : List Token}
  {indents indents' : List Nat} {candidate : Option KeyCandidate} {keyAllowed : Bool}
  {column : Nat} {result : List Token}

/-! ## Presentations -/

/-- How a text is written, and why it may be written so. -/
theorem presentation_cases (text : String) :
    (presentation text = .plain ∧ plainAllowed text.toList = true ∧ text.toList ≠ []) ∨
      (presentation text = .singleQuoted ∧ Quotable text.toList) ∨
      presentation text = .doubleQuoted ∨
      (presentation text = .literal ∧ Literal text.toList ∧ '\n' ∈ text.toList) := by
  simp only [presentation]
  split
  · rename_i hfeed
    have hmem : '\n' ∈ text.toList := by simpa using hfeed
    split
    · rename_i hallowed
      refine .inr (.inr (.inr ⟨rfl, ⟨List.ne_nil_of_mem hmem, ?_⟩, hmem⟩))
      simp only [literalAllowed, hasUnprintable, Bool.and_eq_true, Bool.not_eq_true',
        List.any_eq_false] at hallowed
      intro c hc
      simpa using hallowed.2 c hc
    · exact .inr (.inr (.inl rfl))
  · rename_i hfeed
    have hfeeds : ∀ c ∈ text.toList, c ≠ '\n' := by
      rintro c hc rfl
      exact hfeed (by simpa using hc)
    split
    · rename_i hplain
      rw [Bool.and_eq_true] at hplain
      refine .inl ⟨rfl, hplain.2, ?_⟩
      intro hempty
      obtain rfl : text = "" := String.toList_eq_nil_iff.mp hempty
      cases hplain.1
    · split
      · rename_i hallowed
        simp only [singleQuotesAllowed, hasUnprintable, Bool.and_eq_true, Bool.not_eq_true',
          List.any_eq_false] at hallowed
        obtain ⟨⟨hafter, hbefore⟩, hprintable⟩ := hallowed
        exact .inr (.inl ⟨rfl, fun c hc => by simpa using hprintable c hc, hfeeds, hbefore, hafter⟩)
      · exact .inr (.inr (.inl rfl))

/-! ## Plain scalars -/

theorem isIndicator_eq (c : Char) :
    Scan.isIndicator c = (c == '-' || c == '?' || c == ':' || isOpeningMark c) := by
  have hmarks : "-?:,[]\x7b\x7d#&*!|>'\"%@`".toList = ['-', '?', ':', ',', '[', ']', '\x7b', '\x7d',
    '#', '&', '*', '!', '|', '>', '\'', '"', '%', '@', '\x60'] := rfl
  rw [Scan.isIndicator, hmarks, isOpeningMark]
  simp only [List.contains_cons, List.contains_nil, Bool.or_false]
  ac_rfl

/-- How a text may begin that is written without quotes. -/
structure OpensPlain (c : Char) (rest : List Char) : Prop where
  solid : separates c = false
  mark : isOpeningMark c = false
  /-- A hyphen, a question mark or a colon is followed by something else. -/
  lone : c = '-' ∨ c = '?' ∨ c = ':' → endsWord rest = false

theorem opensPlain_of_plainAllowed {c : Char} (hallowed : plainAllowed (c :: text) = true) :
    OpensPlain c (text ++ rest) := by
  simp only [plainAllowed, hasOpenEnd, hasUnprintable, hasIndicator, opensOther, hasClosingColon,
    Bool.and_eq_true, Bool.not_eq_true', Bool.or_eq_false_iff, List.any_cons] at hallowed
  obtain ⟨⟨⟨⟨hfirst, -⟩, hprintable, -⟩, hbreak, -⟩, ⟨⟨-, hmark, hlone⟩, hcolon, -⟩, -⟩ := hallowed
  have hends (hother : endsToken text = false) : endsWord (text ++ rest) = false := by
    cases text with
    | nil => cases hother
    | cons d text =>
        rw [endsToken, isBlankOrBreak, Bool.or_eq_false_iff] at hother
        exact hother.1
  refine ⟨Bool.eq_false_iff.mpr fun hseparates => ?_, hmark, ?_⟩
  · have hspace := separates_of_isPrintable (by simpa using hprintable) hseparates hbreak
    rw [hspace] at hfirst
    cases hfirst
  · rintro (rfl | rfl | rfl)
    · exact hends hlone
    · exact hends hlone
    · exact hends hcolon

theorem OpensPlain.opens {c : Char} {more : List Char} (hopens : OpensPlain c more) :
    Opens (c :: rest) := by
  have hsolid := hopens.solid
  rw [separates, Bool.or_eq_false_iff] at hsolid
  refine .cons hsolid.1 hsolid.2 ?_
  rintro rfl
  cases hopens.mark

theorem Quotes.opens (quotes : Quotes) : Opens (quotes.mark :: rest) := by
  rw [Quotes.mark]
  split <;> exact .cons rfl rfl (by decide)

namespace Scan

theorem startsPlain_of_opensPlain {c : Char} (hopens : OpensPlain c rest) :
    startsPlain false c rest = true := by
  have hsolid := hopens.solid
  rw [separates] at hsolid
  rw [startsPlain, isIndicator_eq, hopens.mark, hsolid]
  by_cases hhyphen : c = '-'
  · subst hhyphen
    have hrest := hopens.lone (.inl rfl)
    cases rest with
    | nil => rfl
    | cons d rest =>
        rw [endsWord, Bool.or_eq_false_iff] at hrest
        simp [hrest.1]
  · by_cases hlone : c = '?' ∨ c = ':'
    · have hrest := hopens.lone (.inr hlone)
      rcases hlone with rfl | rfl <;> simp [hrest]
    · rw [not_or] at hlone
      simp [hhyphen, hlone.1, hlone.2]

/-- A plain scalar is read as such. -/
theorem token?_plain {c : Char} (hopens : OpensPlain c rest) (hmark : p.atDocumentMark = false) :
    (inBlock p tokens indents keyAllowed candidate).token? c rest =
      (inBlock p tokens indents keyAllowed candidate).scalar? .plain
        (readPlain? false ((inBlock p tokens indents keyAllowed candidate).indent + 1).toNat
          (p.rest.length + 1) p [] Gap.none) := by
  have hother : ∀ d, isOpeningMark d = true → (c == d) = false := by
    intro d hd
    rw [beq_eq_false_iff_ne]
    rintro rfl
    rw [hopens.mark] at hd
    cases hd
  have hends (d : Char) (hd : d = '-' ∨ d = '?' ∨ d = ':') : (c == d && endsWord rest) = false := by
    rw [Bool.and_eq_false_iff, beq_eq_false_iff_ne]
    by_cases hc : c = d
    · subst hc
      exact .inr (hopens.lone hd)
    · exact .inl hc
  have hinFlow : (inBlock p tokens indents keyAllowed candidate).inFlow = false := rfl
  rw [token?]
  simp only [hother '%' rfl, hmark, hother '[' rfl, hother '\x7b' rfl, hother ']' rfl,
    hother '\x7d' rfl, hother ',' rfl, hends '-' (by simp), hends '?' (by simp), hends ':' (by simp),
    hother '*' rfl, hother '&' rfl, hother '!' rfl, hother '|' rfl, hother '>' rfl, hother '\'' rfl,
    hother '"' rfl, hinFlow, startsPlain_of_opensPlain hopens, Bool.and_false, Bool.false_and,
    Bool.false_or, Bool.false_eq_true, if_false, if_true]

theorem token?_quoted (quotes : Quotes) (hmark : p.atDocumentMark = false) {style : Style}
    (hstyle : style = if quotes.single then .singleQuoted else .doubleQuoted) :
    (inBlock p tokens indents keyAllowed candidate).token? quotes.mark rest =
      (inBlock p tokens indents keyAllowed candidate).scalar? style
        (readQuoted? quotes.single (p.rest.length + 1) p.next []) := by
  rw [token?, Quotes.mark, hstyle]
  cases quotes.single <;> simp [hmark]

theorem token?_literal (hmark : p.atDocumentMark = false) :
    (inBlock p tokens indents keyAllowed candidate).token? '|' rest =
      (inBlock p tokens indents keyAllowed candidate).blockScalar? .literal := by
  rw [token?]
  simp [hmark, inFlow]

/-! ## Lines of values -/

variable {outer : List Nat} {indent : Nat} {tail : List Char}

/-- A scalar that is no key is put behind the tokens before it. -/
theorem finds_scalar {c : Char} {style : Style} {p' : Place} {broken : Bool}
    (hplace : p.rest = ' ' :: c :: rest) (hopens : Opens (c :: rest)) (hidle : Idle candidate p.line)
    (hindent : indent ≤ p.column)
    (htoken : ∀ candidate, (inBlock (p.advance 1) tokens (indent :: outer) keyAllowed
      candidate).token? c rest = (inBlock (p.advance 1) tokens (indent :: outer) keyAllowed
        candidate).scalar? style (some ⟨text, p', broken⟩))
    (hlength : p'.rest.length ≤ rest.length)
    (hnext : ∀ candidate, Idle candidate p.line → (inBlock p' (.scalar style (String.ofList text) ::
      tokens) (indent :: outer) broken candidate).Finds result) :
    (inBlock p tokens (indent :: outer) keyAllowed candidate).Finds result := by
  have hspace : p.rest = spaces 1 ++ c :: rest := hplace
  refine finds_of_token hspace hopens hidle ?_ ?_
  · intro m hm
    cases hm
    exact Nat.le_succ_of_le hindent
  · intro candidate₁ hidle₁ _
    have hcolumn : ∀ m ∈ (indent :: outer).head?, m < (p.advance 1).column := by
      intro m hm
      cases hm
      exact Nat.lt_succ_of_le hindent
    obtain ⟨candidate₂, hsave, hidle₂⟩ : ∃ candidate₂, (inBlock (p.advance 1) tokens
        (indent :: outer) keyAllowed candidate₁).saveCandidate? = some (inBlock (p.advance 1) tokens
          (indent :: outer) keyAllowed candidate₂) ∧ Idle candidate₂ (p.advance 1).line :=
      saveCandidate?_idle hidle₁ hcolumn (List.cons_ne_nil _ _)
    refine ⟨_, ?_, hlength, hnext candidate₂ hidle₂⟩
    rw [htoken candidate₁]
    simp only [scalar?, hsave]
    rfl

/-- A text without quotes ends its line. -/
theorem finds_plainLine (hallowed : plainAllowed text = true) (hsome : text ≠ [])
    (hplace : p.rest = ' ' :: (text ++ '\n' :: tail)) (hidle : Idle candidate p.line)
    (hindent : indent ≤ p.column)
    (htail : Continues indent tail (.scalar .plain (String.ofList text) :: tokens) (indent :: outer)
      result) :
    (inBlock p tokens (indent :: outer) keyAllowed candidate).Finds result := by
  obtain ⟨c, text, rfl⟩ := List.exists_cons_of_ne_nil hsome
  obtain ⟨n, next, rfl, hopens, hn, hends⟩ := htail
  have hspace : p.rest = spaces 1 ++ ((c :: text) ++ '\n' :: (spaces n ++ next)) := hplace
  have hafter := Place.rest_advance_spaces hspace
  have hcolumn : (p.advance 1).column = p.column + 1 := rfl
  have hmark : (p.advance 1).atDocumentMark = false :=
    Place.atDocumentMark_of_column (Nat.succ_pos _)
  have hplain : OpensPlain c (text ++ '\n' :: (spaces n ++ next)) :=
    opensPlain_of_plainAllowed hallowed
  have hlong : (c :: text).length ≤ (p.advance 1).rest.length + 1 := by
    rw [hafter, List.length_append]
    omega
  have hread : readPlain? false (indent + 1) ((p.advance 1).rest.length + 1) (p.advance 1) [] Gap.none =
      some ⟨c :: text, ((p.advance 1).advance (c :: text).length).nextLine.advance n, true⟩ :=
    readPlain?_line (words_of_plainAllowed hallowed hsome) hafter hmark (by omega) hlong hopens
      (Nat.lt_succ_of_le hn)
  have hbreak := Place.nextLine_of_isFeed (rfl : isFeed '\n' = true)
    (Place.rest_advance_append hafter)
  have hspaces : ((p.advance 1).advance (c :: text).length).nextLine.rest = spaces n ++ next := by
    rw [hbreak]
  have hbehind := Place.rest_advance_spaces hspaces
  have htoken (candidate : Option KeyCandidate) :
      (inBlock (p.advance 1) tokens (indent :: outer) keyAllowed candidate).token? c
        (text ++ '\n' :: (spaces n ++ next)) =
      (inBlock (p.advance 1) tokens (indent :: outer) keyAllowed candidate).scalar? .plain
        (some ⟨c :: text, ((p.advance 1).advance (c :: text).length).nextLine.advance n, true⟩) := by
    have hcurrent : ((inBlock (p.advance 1) tokens (indent :: outer) keyAllowed candidate).indent +
        1).toNat = indent + 1 := rfl
    rw [token?_plain hplain hmark, hcurrent, hread]
  refine finds_scalar hplace hplain.opens hidle hindent htoken ?_ ?_
  · have hshort : next.length ≤ (text ++ '\n' :: (spaces n ++ next)).length := by
      simp only [List.length_append, List.length_cons]
      omega
    rw [hbehind]
    exact hshort
  · intro candidate hidle
    refine hends.finds hopens hbehind ?_ ?_
    · rw [hbreak]
      exact Nat.zero_add n
    · intro k hk
      obtain ⟨hrequired, hline⟩ := hidle k hk
      rw [hbreak]
      exact ⟨hrequired, Nat.lt_succ_of_le hline⟩

/-- A text between quotes ends its line. -/
theorem finds_quotedLine {quotes : Quotes} {written : List Char} {style : Style}
    (hstyle : style = if quotes.single then .singleQuoted else .doubleQuoted)
    (hquoted : QuotedText quotes (indent + 2) text written)
    (hplace : p.rest = ' ' :: quotes.mark :: (written ++ quotes.mark :: '\n' :: tail))
    (hidle : Idle candidate p.line) (hindent : indent ≤ p.column)
    (htail : Continues indent tail (.scalar style (String.ofList text) :: tokens) (indent :: outer)
      result) :
    (inBlock p tokens (indent :: outer) keyAllowed candidate).Finds result := by
  have hspace : p.rest = spaces 1 ++ quotes.mark :: (written ++ quotes.mark :: '\n' :: tail) := hplace
  have hafter := Place.rest_advance_spaces hspace
  have hinside : (p.advance 1).next.rest = written ++ quotes.mark :: '\n' :: tail := by
    rw [Place.next, hafter]
    rfl
  have hmark : (p.advance 1).atDocumentMark = false :=
    Place.atDocumentMark_of_column (Nat.succ_pos _)
  have hmark' : (p.advance 1).next.atDocumentMark = false :=
    Place.atDocumentMark_of_column (Nat.succ_pos _)
  have hlong : text.length < (p.advance 1).rest.length + 1 := by
    have hle := hquoted.length_le
    rw [hafter, List.length_cons, List.length_append]
    omega
  obtain ⟨p', hread, hrest, hline, -⟩ :=
    hquoted.read [] hinside (by simp) hmark' (Nat.succ_pos _) hlong
  have htoken (candidate : Option KeyCandidate) :
      (inBlock (p.advance 1) tokens (indent :: outer) keyAllowed candidate).token? quotes.mark
        (written ++ quotes.mark :: '\n' :: tail) =
      (inBlock (p.advance 1) tokens (indent :: outer) keyAllowed candidate).scalar? style
        (some ⟨text, p', false⟩) := by
    rw [token?_quoted quotes hmark hstyle, hread, List.nil_append]
  refine finds_scalar hplace quotes.opens hidle hindent htoken ?_ ?_
  · rw [hrest, List.length_append]
    exact Nat.le_trans (Nat.le_succ _) (Nat.le_add_left _ _)
  · intro candidate hidle
    refine htail.finds hrest fun k hk => ?_
    obtain ⟨hrequired, hline'⟩ := hidle k hk
    exact ⟨hrequired, Nat.le_trans hline' hline⟩

/-- A literal block ends its last line. -/
theorem finds_literal (hliteral : Literal text)
    (hplace : p.rest = ' ' :: (literalMark text ++ '\n' :: literalLines (indent + 2) true text ++ tail))
    (hidle : Idle candidate p.line) (hindent : indent ≤ p.column)
    (htail : Continues indent tail (.scalar .literal (String.ofList text) :: tokens) (indent :: outer)
      result) :
    (inBlock p tokens (indent :: outer) keyAllowed candidate).Finds result := by
  obtain ⟨n, next, rfl, hopens, hn, hends⟩ := htail
  obtain ⟨mark, hmarks⟩ : ∃ mark, literalMark text = '|' :: mark := ⟨_, literalMark_eq text⟩
  rw [hmarks, List.cons_append, List.cons_append, List.append_assoc, List.cons_append] at hplace
  have hspace : p.rest = spaces 1 ++ '|' :: (mark ++
      '\n' :: (literalLines (indent + 2) true text ++ (spaces n ++ next))) := hplace
  have hafter := Place.rest_advance_spaces hspace
  have hinside : (p.advance 1).next.rest =
      mark ++ '\n' :: (literalLines (indent + 2) true text ++ (spaces n ++ next)) := by
    rw [Place.next, hafter]
    rfl
  have hmark : (p.advance 1).atDocumentMark = false :=
    Place.atDocumentMark_of_column (Nat.succ_pos _)
  obtain ⟨p', hread, hrest, hcolumn, hline⟩ : ∃ p', readBlock? true indent (p.advance 1).next =
      some ⟨text, p', false⟩ ∧ p'.rest = next ∧ p'.column = n ∧ (p.advance 1).next.line < p'.line :=
    readBlock?_literal hliteral (by rw [hinside, hmarks]; rfl) hn hopens
  refine finds_of_token hspace (.cons rfl rfl (by decide)) hidle ?_ ?_
  · intro m hm
    cases hm
    exact Nat.le_succ_of_le hindent
  · intro candidate' hidle' _
    have hdrop : (inBlock (p.advance 1) tokens (indent :: outer) keyAllowed candidate').dropCandidate? =
        some (inBlock (p.advance 1) tokens (indent :: outer) keyAllowed none) :=
      dropCandidate?_idle hidle'
    have hlater : ∀ k ∈ (none : Option KeyCandidate), k.required = false ∧ k.line < p'.line := by
      intro k hk
      cases hk
    refine ⟨_, ?_, ?_, hends.finds hopens hrest hcolumn hlater⟩
    · rw [token?_literal hmark]
      simp only [blockScalar?, hdrop]
      have hcurrent : (inBlock (p.advance 1) tokens (indent :: outer) keyAllowed candidate').indent =
          (indent : Int) := rfl
      simp only [hcurrent, beq_self_eq_true, hread]
      rfl
    · rw [hrest]
      simp only [List.length_append, List.length_cons]
      omega

/-- A text ends its line in the style in which it is written. -/
theorem finds_scalarLine {text : String}
    (hplace : p.rest = ' ' :: (scalarLine (indent + 2) text ++ tail)) (hidle : Idle candidate p.line)
    (hindent : indent ≤ p.column)
    (htail : Continues indent tail (.scalar (presentation text) text :: tokens) (indent :: outer)
      result) :
    (inBlock p tokens (indent :: outer) keyAllowed candidate).Finds result := by
  have htext : String.ofList text.toList = text := String.ofList_toList
  rw [scalarLine] at hplace
  rcases presentation_cases text with ⟨hstyle, hallowed, hsome⟩ | ⟨hstyle, hquotable⟩ | hstyle |
    ⟨hstyle, hliteral, -⟩
  all_goals
    rw [hstyle] at hplace htail
    rw [← htext] at htail
  · rw [List.append_assoc] at hplace
    exact finds_plainLine hallowed hsome hplace hidle hindent htail
  · obtain ⟨written, hwritten, hquoted⟩ := hquotable.quotedText (indent + 2)
    simp only [hwritten, List.cons_append, List.append_assoc, List.nil_append] at hplace
    exact finds_quotedLine rfl hquoted hplace hidle hindent htail
  · have hquoted := quotedText_double (indent + 2) text.toList
    have hwritten : doubleQuoted text.toList =
        '"' :: (text.toList.flatMap doubleQuotedChar ++ ['"']) := rfl
    simp only [hwritten, List.cons_append, List.append_assoc, List.nil_append] at hplace
    exact finds_quotedLine rfl hquoted hplace hidle hindent htail
  · exact finds_literal hliteral hplace hidle hindent htail

end Scan

end DesktopTrial.Yaml
