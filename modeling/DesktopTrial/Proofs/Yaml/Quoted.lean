import DesktopTrial.Proofs.Yaml.Plain
import Mathlib

/-!
# Quoted scalars are found in the text

A text between quotes is a run of words, with spaces or line breaks between them.  Inside
its quotes every character is written as itself or as an escape, and read as itself again.
-/

namespace DesktopTrial.Yaml

open Text (Stops)

/-! ## Escapes -/

theorem hexValue?_upperHexDigit {n : Nat} (hn : n < 16) :
    Json.hexValue? (upperHexDigit n) = some n := by
  revert n
  decide

theorem length_upperHex (width n : Nat) : (upperHex width n).length = width := by
  induction width generalizing n with
  | zero => rfl
  | succ width ih => rw [upperHex, List.length_append, ih, List.length_singleton]

/-- The digits are read as the number, up to their width. -/
theorem foldlM_upperHex (width n : Nat) :
    (upperHex width n).foldlM (fun n d => (Json.hexValue? d).map (16 * n + ·)) 0 =
      some (n % 16 ^ width) := by
  induction width generalizing n with
  | zero => simp [upperHex, Nat.mod_one]
  | succ width ih =>
      have hsplit : n % 16 ^ (width + 1) = 16 * (n / 16 % 16 ^ width) + n % 16 := by
        rw [Nat.pow_succ', Nat.mod_mul, Nat.add_comm]
      rw [upperHex, List.foldlM_append, ih, hsplit]
      simp only [Option.bind_eq_bind, Option.bind_some, List.foldlM_cons, List.foldlM_nil,
        hexValue?_upperHexDigit (Nat.mod_lt n (by decide)), Option.map_some]
      rfl

theorem codeChar?_upperHex {c : Char} {width : Nat} (hwidth : c.toNat < 16 ^ width) :
    codeChar? (upperHex width c.toNat) width = some c := by
  have hvalid : c.toNat < 0xD800 ∨ 0xDFFF < c.toNat ∧ c.toNat < 0x110000 := c.valid
  have hcode : ((0xD800 ≤ c.toNat && c.toNat < 0xE000) || 0x10FFFF < c.toNat) = false := by
    simp only [Bool.or_eq_false_iff, Bool.and_eq_false_iff, decide_eq_false_iff_not]
    omega
  rw [codeChar?, length_upperHex, if_neg (fun h => h rfl), foldlM_upperHex,
    Nat.mod_eq_of_lt hwidth]
  simp only [hcode, Bool.false_eq_true, if_false, Char.ofNat_toNat]

theorem escapeLetter?_of_some {c letter : Char} (hletter : escapeLetterFor? c = some letter) :
    isLineBreak letter = false ∧ escapeWidth? letter = none ∧ escapeLetter? letter = some c := by
  unfold escapeLetterFor? at hletter
  split at hletter
  all_goals cases hletter
  all_goals
    rename_i hcode
    have hchar := congrArg Char.ofNat hcode
    rw [Char.ofNat_toNat] at hchar
    subst hchar
    decide

variable {p : Place} {rest run : List Char} {fuel : Nat}

theorem readQuotedRun?_escape {c d : Char} {more : List Char} {width : Nat}
    (hplace : p.rest = '\\' :: d :: more) (hbreak : isLineBreak d = false)
    (hwidth : escapeWidth? d = some width) (hcode : codeChar? (more.take width) width = some c) :
    readQuotedRun? false (fuel + 1) p run =
      readQuotedRun? false fuel (p.advance (2 + width)) (run ++ [c]) := by
  rw [readQuotedRun?, hplace]
  simp only [hbreak, hwidth, hcode]
  rfl

/-- An escape is read as its character. -/
theorem readQuotedRun?_escapeSequence {c : Char} (hplace : p.rest = escapeSequence c ++ rest) :
    readQuotedRun? false (fuel + 1) p run =
      readQuotedRun? false fuel (p.advance (escapeSequence c).length) (run ++ [c]) := by
  cases hletter : escapeLetterFor? c with
  | some letter =>
      obtain ⟨hbreak, hwidth, hread⟩ := escapeLetter?_of_some hletter
      have hwritten : escapeSequence c = ['\\', letter] := by rw [escapeSequence, hletter]
      rw [hwritten] at hplace ⊢
      have hcons : p.rest = '\\' :: letter :: rest := hplace
      rw [readQuotedRun?, hcons]
      simp only [hbreak, hwidth, hread]
      rfl
  | none =>
      have hcode : ∃ d width, escapeSequence c = '\\' :: d :: upperHex width c.toNat ∧
          isLineBreak d = false ∧ escapeWidth? d = some width ∧ c.toNat < 16 ^ width := by
        have hvalid : c.toNat < 0xD800 ∨ 0xDFFF < c.toNat ∧ c.toNat < 0x110000 := c.valid
        by_cases htwo : c.toNat ≤ 0xFF
        · refine ⟨'x', 2, by simp only [escapeSequence, hletter, htwo, if_true], rfl, rfl, ?_⟩
          omega
        · by_cases hfour : c.toNat ≤ 0xFFFF
          · refine ⟨'u', 4, by simp only [escapeSequence, hletter, htwo, hfour, if_true, if_false],
              rfl, rfl, ?_⟩
            omega
          · refine ⟨'U', 8, by simp only [escapeSequence, hletter, htwo, hfour, if_false],
              rfl, rfl, ?_⟩
            omega
      obtain ⟨d, width, hwritten, hbreak, hwidth, hsmall⟩ := hcode
      have hlength : (escapeSequence c).length = 2 + width := by
        rw [hwritten, List.length_cons, List.length_cons, length_upperHex]
        omega
      have hread : codeChar? ((upperHex width c.toNat ++ rest).take width) width = some c := by
        rw [List.take_left' (length_upperHex width c.toNat), codeChar?_upperHex hsmall]
      rw [hlength]
      refine readQuotedRun?_escape ?_ hbreak hwidth hread
      rw [hplace, hwritten]
      rfl

/-! ## Characters between quotes -/

/-- How a character is written between double quotes. -/
def doubleQuotedChar (c : Char) : List Char :=
  if !isPrintable c || isLineBreak c || c == '"' || c == '\\' then escapeSequence c else [c]

/-- How a character is written between single quotes. -/
def singleQuotedChar (c : Char) : List Char := if c = '\'' then ['\'', '\''] else [c]

/-- A kind of quotes: how a character is written, and which characters make up words. -/
structure Quotes where
  single : Bool
  write : Char → List Char
  joins : Char → Bool
  /-- A character of a word is read as itself. -/
  read : ∀ {c rest}, joins c = true → ∀ {p : Place} {run : List Char} (fuel : Nat),
    p.rest = write c ++ rest →
      readQuotedRun? single (fuel + 1) p run =
        readQuotedRun? single fuel (p.advance (write c).length) (run ++ [c])
  /-- What is written for a character of a word is no gap. -/
  solid : ∀ {c}, joins c = true → ∃ d more, write c = d :: more ∧ separates d = false

def Quotes.mark (quotes : Quotes) : Char := if quotes.single then '\'' else '"'

theorem readQuotedRun?_plain {single : Bool} {c : Char} (hsolid : separates c = false)
    (hplace : p.rest = c :: rest) (hother : if single then c ≠ '\'' else c ≠ '"' ∧ c ≠ '\\') :
    readQuotedRun? single (fuel + 1) p run =
      readQuotedRun? single fuel (p.advance 1) (run ++ [c]) := by
  rw [separates] at hsolid
  rw [readQuotedRun?, hplace]
  cases single with
  | true =>
      have hmark : (c == '\'') = false := beq_eq_false_iff_ne.mpr hother
      simp only [hsolid, hmark, Bool.false_eq_true, if_false, if_true]
      rfl
  | false =>
      have hmark : (c == '"') = false := beq_eq_false_iff_ne.mpr hother.1
      have hescape : (c == '\\') = false := beq_eq_false_iff_ne.mpr hother.2
      simp only [hsolid, hmark, hescape, Bool.false_eq_true, if_false]
      rfl

/-- Single quotes: a quote is doubled. -/
def singleQuotes : Quotes where
  single := true
  write := singleQuotedChar
  joins c := !separates c
  read := by
    intro c rest hjoins p run fuel hplace
    rw [Bool.not_eq_true'] at hjoins
    rw [singleQuotedChar] at hplace ⊢
    split at hplace
    · rename_i hquote
      have hcons : p.rest = '\'' :: '\'' :: rest := hplace
      rw [if_pos hquote, readQuotedRun?, hcons, hquote]
      rfl
    · rename_i hquote
      rw [if_neg hquote]
      exact readQuotedRun?_plain hjoins hplace hquote
  solid := by
    intro c hjoins
    rw [Bool.not_eq_true'] at hjoins
    rw [singleQuotedChar]
    split
    · exact ⟨_, _, rfl, rfl⟩
    · exact ⟨c, [], rfl, hjoins⟩

/-- Between double quotes a character that is no space is an escape or stands for itself. -/
theorem doubleQuotedChar_of_ne {c : Char} (hspace : c ≠ ' ') :
    doubleQuotedChar c = escapeSequence c ∨
      doubleQuotedChar c = [c] ∧ separates c = false ∧ c ≠ '"' ∧ c ≠ '\\' := by
  rw [doubleQuotedChar]
  split
  · exact .inl rfl
  · rename_i hverbatim
    simp only [Bool.or_eq_true, not_or, Bool.not_eq_true, Bool.not_eq_false', beq_iff_eq]
      at hverbatim
    obtain ⟨⟨⟨hprintable, hbreak⟩, hquote⟩, hescape⟩ := hverbatim
    refine .inr ⟨rfl, Bool.eq_false_iff.mpr fun hseparates => ?_, hquote, hescape⟩
    exact hspace (separates_of_isPrintable hprintable hseparates hbreak)

/-- Double quotes: what cannot be printed is escaped. -/
def doubleQuotes : Quotes where
  single := false
  write := doubleQuotedChar
  joins c := c != ' '
  read := by
    intro c rest hjoins p run fuel hplace
    rcases doubleQuotedChar_of_ne (bne_iff_ne.mp hjoins) with hescape | ⟨hverbatim, hsolid, hmarks⟩
    · rw [hescape] at hplace ⊢
      exact readQuotedRun?_escapeSequence hplace
    · rw [hverbatim] at hplace ⊢
      exact readQuotedRun?_plain hsolid hplace hmarks
  solid := by
    intro c hjoins
    rcases doubleQuotedChar_of_ne (bne_iff_ne.mp hjoins) with hescape | ⟨hverbatim, hsolid, -⟩
    · rw [hescape]
      exact ⟨_, _, rfl, rfl⟩
    · exact ⟨c, [], hverbatim, hsolid⟩

namespace Quotes

variable {quotes : Quotes} {word : List Char}

/-- A run of characters ends at a gap or at the closing mark, which is not doubled. -/
def Ends (quotes : Quotes) (rest : List Char) : Prop :=
  ∃ c more, rest = c :: more ∧
    (separates c = true ∨ c = quotes.mark ∧ more.head? ≠ some '\'')

theorem Ends.readRun (hends : quotes.Ends rest) (hplace : p.rest = rest) :
    readQuotedRun? quotes.single (fuel + 1) p run = some (run, p, false) := by
  obtain ⟨c, more, rfl, hgap | ⟨hmark, hmore⟩⟩ := hends
  · rw [separates] at hgap
    rw [readQuotedRun?, hplace]
    simp only [hgap, if_true]
  · have hdouble : (more.head? == some '\'') = false := beq_eq_false_iff_ne.mpr hmore
    rw [readQuotedRun?, hplace, hmark, mark]
    cases quotes.single with
    | true => simp only [if_true, hdouble]; rfl
    | false => rfl

theorem readRun (hword : ∀ c ∈ word, quotes.joins c = true)
    (hplace : p.rest = word.flatMap quotes.write ++ rest) (hends : quotes.Ends rest)
    (hfuel : word.length < fuel) :
    readQuotedRun? quotes.single fuel p run =
      some (run ++ word, p.advance (word.flatMap quotes.write).length, false) := by
  induction word generalizing fuel p run with
  | nil =>
      obtain ⟨fuel, rfl⟩ : ∃ m, fuel = m + 1 := ⟨fuel - 1, by omega⟩
      rw [List.append_nil]
      exact hends.readRun hplace
  | cons c word ih =>
      obtain ⟨fuel, rfl⟩ : ∃ m, fuel = m + 1 := ⟨fuel - 1, by omega⟩
      rw [List.flatMap_cons, List.append_assoc] at hplace
      rw [quotes.read (hword c List.mem_cons_self) fuel hplace,
        ih (fun d hd => hword d (List.mem_cons_of_mem _ hd)) (Place.rest_advance_append hplace)
          (Nat.lt_of_succ_lt_succ hfuel),
        Place.advance_advance, List.append_assoc, List.flatMap_cons, List.length_append]
      rfl

theorem length_le_flatMap (hword : ∀ c ∈ word, quotes.joins c = true) :
    word.length ≤ (word.flatMap quotes.write).length := by
  induction word with
  | nil => exact Nat.zero_le _
  | cons c word ih =>
      obtain ⟨d, more, hwrite, -⟩ := quotes.solid (hword c List.mem_cons_self)
      have hrest := ih fun d hd => hword d (List.mem_cons_of_mem _ hd)
      rw [List.flatMap_cons, hwrite]
      simp only [List.length_append, List.length_cons]
      omega

theorem separates_mark (quotes : Quotes) : separates quotes.mark = false := by
  rw [mark]
  split <;> rfl

/-- A word is read first, and then the closing mark or a gap. -/
theorem readQuoted?_word {text : List Char} (hword : ∀ c ∈ word, quotes.joins c = true)
    (hplace : p.rest = word.flatMap quotes.write ++ rest) (hends : quotes.Ends rest)
    (hmark : p.atDocumentMark = false) :
    readQuoted? quotes.single (fuel + 1) p text =
      if rest.head? == some quotes.mark then
        some ⟨text ++ word, (p.advance (word.flatMap quotes.write).length).next, false⟩
      else (readGap? 0 rest.length (p.advance (word.flatMap quotes.write).length) Gap.none).bind
        fun (p', gap) => readQuoted? quotes.single fuel p' (text ++ word ++ gap.text) := by
  have hafter := Place.rest_advance_append hplace
  have hsome : p.rest.isEmpty = false := by
    obtain ⟨c, more, hrest, -⟩ := hends
    rw [hplace, hrest, List.isEmpty_eq_false_iff]
    simp
  have hlength : word.length < p.rest.length + 1 := by
    have hle := length_le_flatMap hword
    rw [hplace, List.length_append]
    omega
  rw [readQuoted?, hmark, hsome, readRun hword hplace hends hlength]
  simp only [Bool.or_self, Bool.false_eq_true, if_false, hafter, mark, Bool.not_false,
    Bool.true_and, List.nil_append]
  cases readGap? 0 rest.length (p.advance (word.flatMap quotes.write).length) Gap.none <;> rfl

/-- A word is followed by the closing mark. -/
theorem readQuoted?_close {text : List Char} (hword : ∀ c ∈ word, quotes.joins c = true)
    (hplace : p.rest = word.flatMap quotes.write ++ quotes.mark :: rest)
    (hrest : rest.head? ≠ some '\'') (hmark : p.atDocumentMark = false) :
    readQuoted? quotes.single (fuel + 1) p text =
      some ⟨text ++ word, p.advance ((word.flatMap quotes.write).length + 1), false⟩ := by
  have hends : quotes.Ends (quotes.mark :: rest) := ⟨_, _, rfl, .inr ⟨rfl, hrest⟩⟩
  rw [readQuoted?_word hword hplace hends hmark, List.head?_cons, if_pos (beq_self_eq_true _),
    ← Place.advance_advance]
  rfl

/-- A word is followed by a gap. -/
theorem readQuoted?_gap {text : List Char} {c : Char} {p' : Place} {gap : Gap}
    (hword : ∀ c ∈ word, quotes.joins c = true)
    (hplace : p.rest = word.flatMap quotes.write ++ c :: rest) (hc : separates c = true)
    (hmark : p.atDocumentMark = false)
    (hgap : readGap? 0 (p.advance (word.flatMap quotes.write).length).rest.length
      (p.advance (word.flatMap quotes.write).length) Gap.none = some (p', gap)) :
    readQuoted? quotes.single (fuel + 1) p text =
      readQuoted? quotes.single fuel p' (text ++ word ++ gap.text) := by
  have hends : quotes.Ends (c :: rest) := ⟨_, _, rfl, .inl hc⟩
  have hother : ¬(some c == some quotes.mark) = true := by
    rw [beq_iff_eq, Option.some.injEq]
    rintro rfl
    rw [quotes.separates_mark] at hc
    cases hc
  rw [Place.rest_advance_append hplace] at hgap
  rw [readQuoted?_word hword hplace hends hmark, List.head?_cons, if_neg hother, hgap,
    Option.bind_some]

end Quotes

/-! ## Texts between quotes -/

/-- The breaks that are written as they are between single quotes. -/
def isSeparator (c : Char) : Bool := isFeed c && c != '\n'

theorem isSeparator_iff {c : Char} : isSeparator c = true ↔ isFeed c = true ∧ c ≠ '\n' := by
  rw [isSeparator, Bool.and_eq_true, bne_iff_ne]

/-- The breaks of a gap are kept once a line has ended. -/
theorem readGap?_breaks {breaks : List Char} {indent n : Nat} {gap : Gap}
    (hbreaks : ∀ c ∈ breaks, isSeparator c = true) (hbroken : gap.broken = true)
    (hplace : p.rest = breaks ++ (spaces n ++ rest)) (hstops : Stops separates rest)
    (hfuel : breaks.length + n ≤ fuel) (hcolumn : p.column = 0) :
    ∃ p', readGap? indent fuel p gap = some (p', { gap with more := gap.more ++ breaks }) ∧
      p'.rest = rest ∧ p'.column = n ∧ p.line ≤ p'.line := by
  induction breaks generalizing fuel p gap with
  | nil =>
      have hpadded : gap.padded n = { gap with more := gap.more ++ [] } := by
        rw [Gap.padded, if_pos hbroken, List.append_nil]
      refine ⟨p.advance n, ?_, ?_, ?_, Nat.le_refl _⟩
      · rw [readGap?_spaces hplace hstops (by simpa using hfuel), hpadded]
      · exact Place.rest_advance_spaces hplace
      · rw [Place.advance, hcolumn]
        exact Nat.zero_add n
  | cons c breaks ih =>
      have hc := hbreaks c List.mem_cons_self
      have hfeed := (isSeparator_iff.mp hc).1
      obtain ⟨hbreak, hgap⟩ := isLineBreak_of_isFeed hfeed
      have hnext := Place.nextLine_of_isFeed hfeed hplace
      have hadd : gap.addBreak [c] = { gap with more := gap.more ++ [c] } := by
        rw [Gap.addBreak, if_pos hbroken]
      rw [List.length_cons] at hfuel
      obtain ⟨fuel, rfl⟩ : ∃ m, fuel = m + 1 := ⟨fuel - 1, by omega⟩
      have hread : ∃ p', readGap? indent fuel p.nextLine (gap.addBreak [c]) =
          some (p', { gap.addBreak [c] with more := (gap.addBreak [c]).more ++ breaks }) ∧
            p'.rest = rest ∧ p'.column = n ∧ p.nextLine.line ≤ p'.line :=
        ih (fun d hd => hbreaks d (List.mem_cons_of_mem _ hd)) (by rw [hadd]; exact hbroken)
          (by rw [hnext]; rfl) (by omega) (by rw [hnext])
      obtain ⟨p', hread, hrest, hcolumn', hline⟩ := hread
      refine ⟨p', ?_, hrest, hcolumn', ?_⟩
      · rw [hadd] at hread
        simp only [List.append_assoc, List.singleton_append] at hread
        rw [readGap?, hplace]
        simp only [List.cons_append, hgap, hbreak, Bool.false_eq_true, if_false, if_true,
          Place.breakText_of_isFeed hfeed hplace, hadd]
        exact hread
      · rw [hnext] at hline
        exact Nat.le_of_succ_le hline

/-- A gap in which lines end keeps its breaks and drops the indentation. -/
theorem readGap?_lines (indent : Nat) {breaks : List Char} {first : Char} {n : Nat}
    (hbreaks : ∀ c ∈ first :: breaks, isSeparator c = true)
    (hplace : p.rest = first :: breaks ++ (spaces n ++ rest)) (hstops : Stops separates rest) :
    ∃ p', readGap? indent p.rest.length p Gap.none =
        some (p', ⟨[], true, some [first], breaks⟩) ∧
      p'.rest = rest ∧ p'.column = n ∧ p.line ≤ p'.line := by
  have hfirst := (isSeparator_iff.mp (hbreaks first List.mem_cons_self)).1
  obtain ⟨hbreak, hgap⟩ := isLineBreak_of_isFeed hfirst
  have hnext := Place.nextLine_of_isFeed hfirst hplace
  have hfuel : breaks.length + n ≤ (breaks ++ (spaces n ++ rest)).length := by
    rw [List.length_append, List.length_append, length_spaces]
    omega
  have hread : ∃ p', readGap? indent (breaks ++ (spaces n ++ rest)).length p.nextLine
      ⟨[], true, some [first], []⟩ = some (p', ⟨[], true, some [first], [] ++ breaks⟩) ∧
        p'.rest = rest ∧ p'.column = n ∧ p.nextLine.line ≤ p'.line :=
    readGap?_breaks (fun c hc => hbreaks c (List.mem_cons_of_mem _ hc)) rfl
      (by rw [hnext]; rfl) hstops hfuel (by rw [hnext])
  obtain ⟨p', hread, hrest, hcolumn, hline⟩ := hread
  refine ⟨p', ?_, hrest, hcolumn, ?_⟩
  · rw [hplace, List.cons_append, List.length_cons, readGap?, hplace]
    simp only [List.cons_append, hgap, hbreak, Bool.false_eq_true, if_false, if_true,
      Place.breakText_of_isFeed hfirst hplace]
    exact hread
  · rw [hnext] at hline
    exact Nat.le_of_succ_le hline

/-- The text is written so between its quotes, with `indent` columns before a line. -/
inductive QuotedText (quotes : Quotes) (indent : Nat) : List Char → List Char → Prop
  | word {word} : (∀ c ∈ word, quotes.joins c = true) →
      QuotedText quotes indent word (word.flatMap quotes.write)
  | blank {word n text written} : (∀ c ∈ word, quotes.joins c = true) → 0 < n →
      Stops separates (written ++ [quotes.mark]) → QuotedText quotes indent text written →
      QuotedText quotes indent (word ++ (spaces n ++ text))
        (word.flatMap quotes.write ++ (spaces n ++ written))
  | line {word first breaks text written} : (∀ c ∈ word, quotes.joins c = true) →
      (∀ c ∈ first :: breaks, isSeparator c = true) →
      Stops separates (written ++ [quotes.mark]) → QuotedText quotes indent text written →
      QuotedText quotes indent (word ++ (first :: breaks ++ text))
        (word.flatMap quotes.write ++ (first :: breaks ++ (spaces indent ++ written)))

theorem QuotedText.length_le {quotes : Quotes} {indent : Nat} {text written : List Char}
    (hquoted : QuotedText quotes indent text written) : text.length ≤ written.length := by
  induction hquoted with
  | word hword => exact Quotes.length_le_flatMap hword
  | blank hword hn hstops hquoted ih =>
      have hle := Quotes.length_le_flatMap hword
      simp only [List.length_append]
      omega
  | line hword hbreaks hstops hquoted ih =>
      have hle := Quotes.length_le_flatMap hword
      simp only [List.length_append, List.length_cons]
      omega

theorem stops_append_cons {q : Char → Bool} {text more : List Char} {c : Char}
    (hstops : Stops q (text ++ [c])) : Stops q (text ++ c :: more) := by
  cases text with
  | nil => exact .cons (hstops c rfl)
  | cons d text => exact .cons (hstops d rfl)

/-- Only a newline is folded, other breaks are kept. -/
theorem Gap.text_of_break {first : Char} {breaks : List Char} (hother : first ≠ '\n') :
    Gap.text ⟨[], true, some [first], breaks⟩ = first :: breaks := by
  simp only [Gap.text, Bool.not_true, Bool.false_eq_true, if_false]
  split
  · rename_i heq
    exact absurd (List.cons.inj (Option.some.inj heq)).1 hother
  · rename_i heq
    cases heq
    rfl
  · rename_i heq
    cases heq

/-- A text between quotes is read up to its closing mark. -/
theorem QuotedText.read {quotes : Quotes} {indent : Nat} {text written : List Char}
    (hquoted : QuotedText quotes indent text written) (before : List Char)
    (hplace : p.rest = written ++ quotes.mark :: rest) (hrest : rest.head? ≠ some '\'')
    (hmark : p.atDocumentMark = false) (hindent : 0 < indent) (hfuel : text.length < fuel) :
    ∃ p', readQuoted? quotes.single fuel p before = some ⟨before ++ text, p', false⟩ ∧
      p'.rest = rest ∧ p.line ≤ p'.line ∧
      ((∀ c ∈ written, isLineBreak c = false) → p' = p.advance (written.length + 1)) := by
  induction hquoted generalizing fuel p before with
  | @word word hword =>
      obtain ⟨fuel, rfl⟩ : ∃ m, fuel = m + 1 := ⟨fuel - 1, by omega⟩
      refine ⟨_, Quotes.readQuoted?_close hword hplace hrest hmark, ?_, Nat.le_refl _,
        fun _ => rfl⟩
      have hafter := Place.rest_advance_append hplace
      rw [← Place.advance_advance, Place.advance, hafter]
      rfl
  | @blank word n text written hword hn hstops hquoted ih =>
      rw [List.length_append, List.length_append, length_spaces] at hfuel
      obtain ⟨fuel, rfl⟩ : ∃ m, fuel = m + 1 := ⟨fuel - 1, by omega⟩
      rw [List.append_assoc, List.append_assoc] at hplace
      have hafter := Place.rest_advance_append hplace
      have hnext := Place.rest_advance_spaces hafter
      rw [Place.advance_advance] at hnext
      have hgap := readGap?_blank 0 hafter (stops_append_cons hstops)
      rw [Place.advance_advance] at hgap
      obtain ⟨n, rfl⟩ : ∃ m, n = m + 1 := ⟨n - 1, by omega⟩
      have hstep : readQuoted? quotes.single (fuel + 1) p before = _ :=
        Quotes.readQuoted?_gap hword hplace rfl hmark hgap
      have hcolumn : 0 < (p.advance ((word.flatMap quotes.write).length + (n + 1))).column :=
        Nat.lt_of_lt_of_le (by omega) (Nat.le_add_left _ _)
      have hless : text.length < fuel := by omega
      obtain ⟨p', hread, hrest', hline, hsame⟩ := ih (before ++ word ++ spaces (n + 1)) hnext
        (Place.atDocumentMark_of_column hcolumn) hless
      refine ⟨p', ?_, hrest', hline, fun hbreaks => ?_⟩
      · have hgapText : Gap.text ⟨spaces (n + 1), false, none, []⟩ = spaces (n + 1) := rfl
        rw [hstep, hgapText, hread, List.append_assoc, List.append_assoc]
      · rw [hsame fun c hc => hbreaks c (by simp [hc]), Place.advance_advance]
        congr 1
        simp only [List.length_append, length_spaces]
        omega
  | @line word first breaks text written hword hbreaks hstops hquoted ih =>
      obtain ⟨hfirst, hfeed⟩ := isSeparator_iff.mp (hbreaks first List.mem_cons_self)
      have hbreak := (isLineBreak_of_isFeed hfirst).1
      simp only [List.length_append, List.length_cons] at hfuel
      obtain ⟨fuel, rfl⟩ : ∃ m, fuel = m + 1 := ⟨fuel - 1, by omega⟩
      rw [List.append_assoc, List.append_assoc, List.append_assoc] at hplace
      have hafter := Place.rest_advance_append hplace
      obtain ⟨p₁, hgap, hnext, hcolumn, hline₁⟩ :=
        readGap?_lines 0 hbreaks hafter (stops_append_cons hstops)
      have hseparates : separates first = true := by rw [separates, hbreak, Bool.or_true]
      have hstep : readQuoted? quotes.single (fuel + 1) p before = _ :=
        Quotes.readQuoted?_gap hword hplace hseparates hmark hgap
      have hless : text.length < fuel := by omega
      obtain ⟨p', hread, hrest', hline, -⟩ := ih (before ++ word ++ (first :: breaks)) hnext
        (Place.atDocumentMark_of_column (by omega)) hless
      refine ⟨p', ?_, hrest', Nat.le_trans hline₁ hline, fun hnone => ?_⟩
      · rw [hstep, Gap.text_of_break hfeed, hread, List.append_assoc, List.append_assoc]
      · rw [hnone first (by simp)] at hbreak
        cases hbreak

/-! ## Between double quotes -/

theorem flatMap_spaces {write : Char → List Char} (hspace : write ' ' = [' ']) (n : Nat) :
    (spaces n).flatMap write = spaces n := by
  induction n with
  | zero => rfl
  | succ n ih =>
      have hcons : spaces (n + 1) = ' ' :: spaces n := rfl
      rw [hcons, List.flatMap_cons, hspace, ih, List.singleton_append]

theorem Quotes.stops_flatMap {quotes : Quotes} {text : List Char}
    (htext : Stops (fun c => !quotes.joins c) text) :
    Stops separates (text.flatMap quotes.write ++ [quotes.mark]) := by
  cases text with
  | nil => exact .cons quotes.separates_mark
  | cons c text =>
      obtain ⟨d, more, hwrite, hsolid⟩ := quotes.solid (by simpa using htext c rfl)
      rw [List.flatMap_cons, hwrite]
      exact .cons hsolid

/-- Between double quotes every text can be written. -/
theorem quotedText_double (indent : Nat) (text : List Char) :
    QuotedText doubleQuotes indent text (text.flatMap doubleQuotedChar) := by
  induction hlength : text.length using Nat.strongRecOn generalizing text with
  | ind length ih =>
    obtain ⟨word, tail, rfl, hword, htail⟩ := Text.exists_run doubleQuotes.joins text
    cases tail with
    | nil =>
        rw [List.append_nil]
        exact .word hword
    | cons c tail =>
        obtain rfl : c = ' ' := by simpa [doubleQuotes] using htail c rfl
        obtain ⟨n, text, rfl, htext⟩ := exists_spaces tail
        have hstops : Stops (fun c => !doubleQuotes.joins c) text := by
          intro d hd
          simpa [doubleQuotes] using htext d hd
        have hrest := ih text.length (by simp at hlength; omega) text rfl
        have hquoted := QuotedText.blank hword (Nat.succ_pos n)
          (doubleQuotes.stops_flatMap hstops) hrest
        have hspaces := flatMap_spaces (show doubleQuotedChar ' ' = [' '] by decide) (n + 1)
        have hcons : ' ' :: (spaces n ++ text) = spaces (n + 1) ++ text := rfl
        rw [hcons, List.flatMap_append, List.flatMap_append, hspaces]
        exact hquoted

/-! ## Between single quotes -/

theorem singleQuotedTail_append {indent : Nat} {run text : List Char}
    (hrun : ∀ c ∈ run, isLineBreak c = false) :
    singleQuotedTail indent false (run ++ text) =
      run.flatMap singleQuotedChar ++ singleQuotedTail indent false text := by
  induction run with
  | nil => rfl
  | cons c run ih =>
      rw [List.cons_append, singleQuotedTail, hrun c List.mem_cons_self,
        ih fun d hd => hrun d (List.mem_cons_of_mem _ hd), List.flatMap_cons, singleQuotedChar]
      simp only [Bool.false_eq_true, if_false, List.nil_append, List.append_assoc]

theorem singleQuotedTail_breaks {indent : Nat} {breaks text : List Char}
    (hbreaks : ∀ c ∈ breaks, isLineBreak c = true) :
    singleQuotedTail indent true (breaks ++ text) = breaks ++ singleQuotedTail indent true text := by
  induction breaks with
  | nil => rfl
  | cons c breaks ih =>
      rw [List.cons_append, singleQuotedTail, hbreaks c List.mem_cons_self,
        ih fun d hd => hbreaks d (List.mem_cons_of_mem _ hd)]
      rfl

/-- A line begins with its indentation. -/
theorem singleQuotedTail_lineStart {indent : Nat} {text : List Char}
    (htext : Stops isLineBreak text) :
    singleQuotedTail indent true text = spaces indent ++ singleQuotedTail indent false text := by
  cases text with
  | nil => rfl
  | cons c text =>
      rw [singleQuotedTail, singleQuotedTail, htext c rfl]
      simp only [Bool.false_eq_true, if_false, if_true, List.nil_append, List.append_assoc]

theorem singleQuotedTail_spaces {indent : Nat} (n : Nat) (text : List Char) :
    singleQuotedTail indent false (spaces n ++ text) =
      spaces n ++ singleQuotedTail indent false text := by
  have hspaces : ∀ c ∈ spaces n, isLineBreak c = false := by
    intro c hc
    rw [List.eq_of_mem_replicate hc]
    rfl
  rw [singleQuotedTail_append hspaces, flatMap_spaces rfl]

/-- Behind a break and others a line begins. -/
theorem singleQuotedTail_lines {indent : Nat} {c : Char} {breaks text : List Char}
    (hbreaks : ∀ d ∈ c :: breaks, isLineBreak d = true) (htext : Stops isLineBreak text) :
    singleQuotedTail indent false (c :: breaks ++ text) =
      c :: breaks ++ (spaces indent ++ singleQuotedTail indent false text) := by
  rw [List.forall_mem_cons] at hbreaks
  rw [← singleQuotedTail_lineStart htext, List.cons_append, singleQuotedTail, hbreaks.1,
    if_pos rfl, singleQuotedTail_breaks hbreaks.2]
  rfl

structure Quotable (text : List Char) : Prop where
  printable : ∀ c ∈ text, isPrintable c = true
  feeds : ∀ c ∈ text, c ≠ '\n'
  before : hasSpaceBeforeBreak text = false
  after : hasSpaceAfterBreak text = false

theorem Quotable.append {before text : List Char} (hquotable : Quotable (before ++ text)) :
    Quotable text where
  printable c hc := hquotable.printable c (List.mem_append_right _ hc)
  feeds c hc := hquotable.feeds c (List.mem_append_right _ hc)
  before := hasNeighbors_append hquotable.before
  after := hasNeighbors_append hquotable.after

theorem Quotable.tail {text : List Char} {c : Char} (hquotable : Quotable (c :: text)) :
    Quotable text := by
  have hcons : c :: text = [c] ++ text := rfl
  rw [hcons] at hquotable
  exact hquotable.append

theorem Quotable.isSeparator {text : List Char} (hquotable : Quotable text) :
    ∀ c ∈ text, isLineBreak c = true → isSeparator c = true := by
  intro c hc hbreak
  have hfeed : isFeed c = true := by
    rw [isFeed, hbreak, hquotable.printable c hc]
    rfl
  exact isSeparator_iff.mpr ⟨hfeed, hquotable.feeds c hc⟩

/-- A gap of spaces ends with a word. -/
theorem Quotable.stops_of_space {text : List Char} (hquotable : Quotable (' ' :: text))
    (htext : Stops (· == ' ') text) : Stops separates text := by
  intro c hc
  obtain ⟨more, rfl⟩ := List.head?_eq_some_iff.mp hc
  have hbreak : isLineBreak c = false := by
    have hbefore := hquotable.before
    rw [hasSpaceBeforeBreak, hasNeighbors, Bool.or_eq_false_iff] at hbefore
    exact hbefore.1
  have hprintable := hquotable.printable c (by simp)
  refine Bool.eq_false_iff.mpr fun hseparates => ?_
  have hother := htext c rfl
  rw [separates_of_isPrintable hprintable hseparates hbreak] at hother
  cases hother

/-- A gap of breaks ends with a word. -/
theorem Quotable.stops_of_breaks {breaks text : List Char} (hquotable : Quotable (breaks ++ text))
    (hsome : breaks ≠ []) (hbreaks : ∀ c ∈ breaks, isLineBreak c = true)
    (htext : Stops isLineBreak text) : Stops separates text := by
  rw [← List.dropLast_concat_getLast hsome, List.append_assoc] at hquotable
  have hquotable := hquotable.append
  intro d hd
  obtain ⟨more, rfl⟩ := List.head?_eq_some_iff.mp hd
  have hspace : isSpace d = false := by
    have hafter := hquotable.after
    rw [List.singleton_append, hasSpaceAfterBreak, hasNeighbors,
      hbreaks _ (List.getLast_mem hsome), Bool.true_and, Bool.or_eq_false_iff] at hafter
    exact hafter.1
  have hprintable := hquotable.printable d (by simp)
  refine Bool.eq_false_iff.mpr fun hseparates => ?_
  rw [separates_of_isPrintable hprintable hseparates (htext d rfl)] at hspace
  cases hspace

/-- Where a text begins with a word, so does what is written for it. -/
theorem QuotedText.stops {quotes : Quotes} {indent : Nat} {text written : List Char}
    (hquoted : QuotedText quotes indent text written) (htext : Stops separates text) :
    Stops separates (written ++ [quotes.mark]) := by
  have hword {word rest : List Char} (hword : ∀ c ∈ word, quotes.joins c = true)
      (hsome : word ≠ []) : Stops separates (word.flatMap quotes.write ++ rest) := by
    obtain ⟨c, word, rfl⟩ := List.exists_cons_of_ne_nil hsome
    obtain ⟨d, more, hwrite, hsolid⟩ := quotes.solid (hword c List.mem_cons_self)
    rw [List.flatMap_cons, hwrite]
    exact .cons hsolid
  cases hquoted with
  | @word =>
      rename_i hjoins
      by_cases hsome : text = []
      · rw [hsome]
        exact .cons quotes.separates_mark
      · exact hword hjoins hsome
  | @blank word n rest written hjoins hn =>
      by_cases hsome : word = []
      · obtain ⟨n, rfl⟩ : ∃ m, n = m + 1 := ⟨n - 1, by omega⟩
        rw [hsome] at htext
        cases htext ' ' rfl
      · rw [List.append_assoc]
        exact hword hjoins hsome
  | @line word first breaks rest written hjoins hbreaks =>
      by_cases hsome : word = []
      · rw [hsome] at htext
        have hfirst := (isSeparator_iff.mp (hbreaks first List.mem_cons_self)).1
        have hbreak := (isLineBreak_of_isFeed hfirst).1
        have hsolid := htext first rfl
        rw [separates, hbreak, Bool.or_true] at hsolid
        cases hsolid
      · rw [List.append_assoc]
        exact hword hjoins hsome

/-- Cut behind a word and the gap after it, the text goes on with another word. -/
theorem Quotable.quotedText (indent : Nat) {text : List Char} (hquotable : Quotable text) :
    ∃ written, singleQuotedTail indent false text = written ++ ['\''] ∧
      QuotedText singleQuotes indent text written := by
  induction hlength : text.length using Nat.strongRecOn generalizing text with
  | ind length ih =>
    obtain ⟨word, tail, rfl, hword, htail⟩ := Text.exists_run singleQuotes.joins text
    have hsolid : ∀ c ∈ word, isLineBreak c = false := by
      intro c hc
      have hjoins := hword c hc
      simp only [singleQuotes, separates, Bool.not_eq_true', Bool.or_eq_false_iff] at hjoins
      exact hjoins.2
    rw [singleQuotedTail_append hsolid]
    cases tail with
    | nil =>
        rw [List.append_nil]
        exact ⟨_, rfl, .word hword⟩
    | cons c tail =>
        have hquotable := hquotable.append
        have hseparates : separates c = true := by simpa [singleQuotes] using htail c rfl
        cases hbreak : isLineBreak c with
        | false =>
            have hprintable := hquotable.printable c List.mem_cons_self
            obtain rfl := separates_of_isPrintable hprintable hseparates hbreak
            obtain ⟨n, text, rfl, htext⟩ := exists_spaces tail
            have hrest : Quotable (' ' :: text) := (cons_spaces_append n text ▸ hquotable).append
            obtain ⟨written, hwritten, hquoted⟩ :=
              ih text.length (by simp at hlength; omega) hrest.tail rfl
            have htail : singleQuotedTail indent false (spaces (n + 1) ++ text) =
                spaces (n + 1) ++ (written ++ ['\'']) := by
              rw [singleQuotedTail_spaces, hwritten]
            have hstops := hquoted.stops (hrest.stops_of_space htext)
            refine ⟨word.flatMap singleQuotedChar ++ (spaces (n + 1) ++ written), ?_,
              .blank hword (Nat.succ_pos n) hstops hquoted⟩
            rw [List.append_assoc, List.append_assoc]
            exact congrArg _ htail
        | true =>
            obtain ⟨breaks, text, rfl, hbreaks, htext⟩ := Text.exists_run isLineBreak tail
            have hall : ∀ d ∈ c :: breaks, isLineBreak d = true :=
              List.forall_mem_cons.mpr ⟨hbreak, hbreaks⟩
            have hcons : c :: (breaks ++ text) = (c :: breaks) ++ text := rfl
            rw [hcons] at hquotable ⊢
            obtain ⟨written, hwritten, hquoted⟩ :=
              ih text.length (by simp at hlength; omega) hquotable.append rfl
            have hseparators : ∀ d ∈ c :: breaks, Yaml.isSeparator d = true := fun d hd =>
              hquotable.isSeparator d (List.mem_append_left _ hd) (hall d hd)
            have hstops := hquoted.stops
              (hquotable.stops_of_breaks (List.cons_ne_nil c breaks) hall htext)
            refine ⟨word.flatMap singleQuotedChar ++
              ((c :: breaks) ++ (spaces indent ++ written)), ?_,
              .line hword hseparators hstops hquoted⟩
            rw [singleQuotedTail_lines hall htext, hwritten]
            simp only [List.append_assoc]

end DesktopTrial.Yaml
