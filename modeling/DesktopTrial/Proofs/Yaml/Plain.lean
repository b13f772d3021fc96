import DesktopTrial.Proofs.Text.Runs
import DesktopTrial.Yaml.Presentation
import DesktopTrial.Yaml.ScalarText

/-!
# Plain scalars are found in the text

A text that may stand without quotes is a run of words with spaces between them.  Read word
by word it is found again, whether a key ends it with its colon or a value with its line.
-/

namespace DesktopTrial.Yaml

open Text (Stops takeWhile_append_of_stops dropWhile_append_of_stops)

/-! ## Places -/

theorem length_spaces (n : Nat) : (spaces n).length = n := List.length_replicate

theorem beq_space_of_mem_spaces {n : Nat} : ∀ c ∈ spaces n, (c == ' ') = true :=
  fun _ hc => beq_iff_eq.mpr (List.eq_of_mem_replicate hc)

/-- Every text is some spaces and what goes on otherwise. -/
theorem exists_spaces (text : List Char) :
    ∃ n rest, text = spaces n ++ rest ∧ Stops (· == ' ') rest := by
  obtain ⟨run, rest, rfl, hrun, hrest⟩ := Text.exists_run (· == ' ') text
  have hspaces : run = spaces run.length :=
    List.eq_replicate_of_mem fun c hc => beq_iff_eq.mp (hrun c hc)
  exact ⟨run.length, rest, by rw [← hspaces], hrest⟩

/-- A space in front of other spaces may as well stand behind them. -/
theorem cons_spaces_append (n : Nat) (rest : List Char) :
    ' ' :: (spaces n ++ rest) = spaces n ++ ' ' :: rest := by
  have hspaces : ' ' :: spaces n = spaces n ++ [' '] := List.replicate_succ'
  rw [← List.cons_append, hspaces, List.append_assoc, List.singleton_append]

namespace Place

theorem advance_advance (p : Place) (m n : Nat) : (p.advance m).advance n = p.advance (m + n) := by
  simp only [advance, List.drop_drop, Nat.add_assoc]

theorem rest_advance_append {p : Place} {run rest : List Char} (hrest : p.rest = run ++ rest) :
    (p.advance run.length).rest = rest := by
  rw [advance, hrest, List.drop_left]

theorem rest_advance_spaces {p : Place} {n : Nat} {rest : List Char}
    (hrest : p.rest = spaces n ++ rest) : (p.advance n).rest = rest := by
  have hafter := rest_advance_append hrest
  rwa [length_spaces] at hafter

theorem skipWhile_append {p : Place} {run rest : List Char} {class? : Char → Bool}
    (hrest : p.rest = run ++ rest) (hrun : ∀ c ∈ run, class? c = true) (hstops : Stops class? rest) :
    p.skipWhile class? = p.advance run.length := by
  rw [skipWhile, hrest, takeWhile_append_of_stops hrun hstops]

/-- Only the first column of a line can hold the mark of a document. -/
theorem atDocumentMark_of_column {p : Place} (hcolumn : 0 < p.column) :
    p.atDocumentMark = false := by
  have hne : (p.column == 0) = false := beq_eq_false_iff_ne.mpr (Nat.ne_of_gt hcolumn)
  rw [atDocumentMark, hne, Bool.false_and]

end Place

/-- Line breaks that are written as they are. -/
def isFeed (c : Char) : Bool := isLineBreak c && isPrintable c

theorem isFeed_iff {c : Char} : isFeed c = true ↔ c = '\n' ∨ c = '\u2028' ∨ c = '\u2029' := by
  constructor
  · intro hc
    simp only [isFeed, isLineBreak, Bool.and_eq_true, Bool.or_eq_true, beq_iff_eq] at hc
    obtain ⟨(((rfl | rfl) | rfl) | rfl) | rfl, hprintable⟩ := hc
    · exact .inl rfl
    · cases hprintable
    · cases hprintable
    · exact .inr (.inl rfl)
    · exact .inr (.inr rfl)
  · rintro (rfl | rfl | rfl) <;> rfl

theorem isLineBreak_of_isFeed {c : Char} (hc : isFeed c = true) :
    isLineBreak c = true ∧ isGap c = false := by
  rcases isFeed_iff.mp hc with rfl | rfl | rfl <;> decide

namespace Place

variable {p : Place} {c : Char} {rest : List Char}

theorem breakText_of_isFeed (hc : isFeed c = true) (hrest : p.rest = c :: rest) :
    p.breakText = [c] := by
  rw [breakText, hrest]
  rcases isFeed_iff.mp hc with rfl | rfl | rfl <;> rfl

theorem nextLine_of_isFeed (hc : isFeed c = true) (hrest : p.rest = c :: rest) :
    p.nextLine = ⟨p.offset + 1, p.line + 1, 0, rest⟩ := by
  rw [nextLine, hrest]
  rcases isFeed_iff.mp hc with rfl | rfl | rfl <;> rfl

end Place

/-- What follows a line break and some indentation: a token, or the end of the text. -/
def Opens (text : List Char) : Prop :=
  ∀ c ∈ text.head?, isGap c = false ∧ isLineBreak c = false ∧ c ≠ '#'

theorem Opens.nil : Opens [] := by
  intro c hc
  cases hc

theorem Opens.cons {c : Char} {rest : List Char} (hgap : isGap c = false) (hbreak : isLineBreak c = false)
    (hcomment : c ≠ '#') : Opens (c :: rest) := by
  intro d hd
  cases hd
  exact ⟨hgap, hbreak, hcomment⟩

/-! ## Gaps -/

/-- Blanks and line breaks, which stand between the words of a scalar. -/
def separates (c : Char) : Bool := isGap c || isLineBreak c

theorem Opens.stops {text : List Char} (hopens : Opens text) : Stops separates text := by
  intro c hc
  obtain ⟨hgap, hbreak, -⟩ := hopens c hc
  rw [separates, hgap, hbreak]
  rfl

theorem Opens.stops_isGap {text : List Char} (hopens : Opens text) : Stops isGap text :=
  fun c hc => (hopens c hc).1

theorem Opens.stops_isLineBreak {text : List Char} (hopens : Opens text) : Stops isLineBreak text :=
  fun c hc => (hopens c hc).2.1

/-- The gap with some spaces at its end, which count only as long as no line ended. -/
def Gap.padded (n : Nat) (gap : Gap) : Gap :=
  if gap.broken then gap else { gap with spaces := gap.spaces ++ Yaml.spaces n }

theorem readGap?_stops {indent fuel : Nat} {p : Place} {gap : Gap} (hstops : Stops separates p.rest) :
    readGap? indent fuel p gap = some (p, gap) := by
  cases fuel with
  | zero => rfl
  | succ fuel =>
      rw [readGap?]
      split
      · rfl
      · rename_i c rest hrest
        have hother := hstops c (by rw [hrest]; rfl)
        rw [separates, Bool.or_eq_false_iff] at hother
        rw [hother.1, hother.2]
        rfl

theorem readGap?_spaces {indent fuel n : Nat} {p : Place} {gap : Gap} {rest : List Char}
    (hrest : p.rest = spaces n ++ rest) (hstops : Stops separates rest) (hfuel : n ≤ fuel) :
    readGap? indent fuel p gap = some (p.advance n, gap.padded n) := by
  induction n generalizing fuel p gap with
  | zero =>
      have hnone : gap.padded 0 = gap := by
        rw [Gap.padded]
        split
        · rfl
        · rw [spaces, List.replicate_zero, List.append_nil]
      rw [hnone]
      exact readGap?_stops (hrest ▸ hstops)
  | succ n ih =>
      obtain ⟨fuel, rfl⟩ : ∃ m, fuel = m + 1 := ⟨fuel - 1, by omega⟩
      have hcons : p.rest = ' ' :: (spaces n ++ rest) := hrest
      have hnext : p.next.rest = spaces n ++ rest := by rw [Place.next, hcons]; rfl
      have hpadded : (gap.addSpace ' ').padded n = gap.padded (n + 1) := by
        cases hbroken : gap.broken
        · simp [Gap.addSpace, Gap.padded, hbroken, spaces, List.replicate_succ]
        · simp [Gap.addSpace, Gap.padded, hbroken]
      have hplace : p.next.advance n = p.advance (n + 1) := by
        rw [Nat.add_comm]
        exact p.advance_advance 1 n
      rw [readGap?, hcons]
      simp only [show isGap ' ' = true from rfl, show (' ' == '\t') = false from rfl, Bool.and_false,
        Bool.false_eq_true, if_false, if_true]
      rw [ih hnext (by omega), hpadded, hplace]

/-- A gap of spaces between two words. -/
theorem readGap?_blank (indent : Nat) {n : Nat} {p : Place} {rest : List Char}
    (hrest : p.rest = spaces n ++ rest) (hstops : Stops separates rest) :
    readGap? indent p.rest.length p Gap.none = some (p.advance n, ⟨spaces n, false, none, []⟩) := by
  have hfuel : n ≤ p.rest.length := by
    rw [hrest, List.length_append, length_spaces]
    exact Nat.le_add_right _ _
  exact readGap?_spaces hrest hstops hfuel

/-- A gap that goes on with the next line. -/
theorem readGap?_line {indent n : Nat} {p : Place} {rest : List Char}
    (hrest : p.rest = '\n' :: (spaces n ++ rest)) (hstops : Stops separates rest) :
    readGap? indent p.rest.length p Gap.none =
      some (p.nextLine.advance n, ⟨[], true, some ['\n'], []⟩) := by
  have hnext : p.nextLine.rest = spaces n ++ rest := by rw [Place.nextLine, hrest]; rfl
  have hbreak : p.breakText = ['\n'] := by rw [Place.breakText, hrest]; rfl
  have hfuel : n ≤ (spaces n ++ rest).length := by
    rw [List.length_append, length_spaces]
    exact Nat.le_add_right _ _
  rw [hrest, List.length_cons, readGap?, hrest]
  simp only [show isGap '\n' = false from rfl, show isLineBreak '\n' = true from rfl,
    Bool.false_eq_true, if_false, if_true, hbreak]
  rw [readGap?_spaces hnext hstops hfuel]
  rfl

/-! ## Words -/

/-- A run of characters that a plain scalar takes in one go. -/
structure IsWord (word : List Char) : Prop where
  some : word ≠ []
  solid : ∀ c ∈ word, separates c = false
  /-- No colon in it looks like the end of a key. -/
  colons : hasClosingColon word = false
  /-- It does not look like a comment. -/
  mark : word.head? ≠ Option.some '#'

theorem plainWord?_append {word rest : List Char} (hsolid : ∀ c ∈ word, separates c = false)
    (hcolons : hasClosingColon word = false) (hrest : plainWord? false rest = some []) :
    plainWord? false (word ++ rest) = some word := by
  induction word with
  | nil => exact hrest
  | cons c word ih =>
      rw [hasClosingColon, Bool.or_eq_false_iff] at hcolons
      have hother := hsolid c List.mem_cons_self
      have hcolon : (c == ':' && endsWord (word ++ rest)) = false := by
        cases hc : c == ':' with
        | false => rfl
        | true =>
            rw [hc, Bool.true_and] at hcolons
            cases word with
            | nil => cases hcolons.1
            | cons d word => exact hsolid d (by simp)
      rw [separates] at hother
      rw [List.cons_append, plainWord?, hother, hcolon,
        ih (fun d hd => hsolid d (List.mem_cons_of_mem _ hd)) hcolons.2]
      rfl

theorem plainWord?_of_separates {c : Char} {rest : List Char} (hc : separates c = true) :
    plainWord? false (c :: rest) = some [] := by
  rw [plainWord?]
  rw [separates] at hc
  rw [hc, if_pos rfl]

theorem plainWord?_colon {rest : List Char} (hrest : endsWord rest = true) :
    plainWord? false (':' :: rest) = some [] := by
  rw [plainWord?, hrest]
  rfl

/-- Words with spaces between them. -/
inductive Words : List Char → Prop
  | last {word} : IsWord word → Words word
  | more {word n rest} : IsWord word → 0 < n → Words rest → Words (word ++ (spaces n ++ rest))

theorem Words.stops {text tail : List Char} (hwords : Words text) :
    Stops separates (text ++ tail) := by
  have hword {word rest : List Char} (hword : IsWord word) : Stops separates (word ++ rest) := by
    obtain ⟨c, word, rfl⟩ := List.exists_cons_of_ne_nil hword.some
    exact .cons (hword.solid c List.mem_cons_self)
  cases hwords with
  | last hlast => exact hword hlast
  | more hfirst =>
      rw [List.append_assoc]
      exact hword hfirst

/-- How a plain scalar goes on behind a word. -/
def plainRest? (indent fuel : Nat) (p : Place) (text : List Char) : Option ScalarEnd :=
  match p.rest with
  | [] => some ⟨text, p, false⟩
  | c :: _ =>
      if !separates c then some ⟨text, p, false⟩
      else match readGap? indent p.rest.length p Gap.none with
        | none => none
        | some (p, gap) =>
            if p.column < indent then some ⟨text, p, gap.broken⟩
            else readPlain? false indent fuel p text gap

theorem readPlain?_word {word rest text : List Char} {indent fuel : Nat} {p : Place} {gap : Gap}
    (hword : IsWord word) (hplace : p.rest = word ++ rest) (hmark : p.atDocumentMark = false)
    (hrest : plainWord? false rest = some []) :
    readPlain? false indent (fuel + 1) p text gap =
      plainRest? indent fuel (p.advance word.length) (text ++ gap.text ++ word) := by
  have hhead : (p.rest.head? == some '#') = false := by
    obtain ⟨c, word, rfl⟩ := List.exists_cons_of_ne_nil hword.some
    rw [hplace, beq_eq_false_iff_ne]
    exact hword.mark
  have hempty : word.isEmpty = false := by
    rw [List.isEmpty_eq_false_iff]
    exact hword.some
  have hread : plainWord? false p.rest = some word := by
    rw [hplace, plainWord?_append hword.solid hword.colons hrest]
  rw [readPlain?, hmark, hhead, hread]
  simp only [Bool.or_self, Bool.false_eq_true, if_false, hempty, Bool.not_false, Bool.true_and,
    decide_eq_true_eq, plainRest?, separates]
  rfl

/-- The words before the last are read one after another. -/
theorem readPlain?_words {text tail : List Char} (hwords : Words text) {indent fuel : Nat}
    {p : Place} {before : List Char} {gap : Gap} (hplace : p.rest = text ++ tail)
    (hmark : p.atDocumentMark = false) (hindent : indent ≤ p.column + 1)
    (hfuel : text.length ≤ fuel) (htail : plainWord? false tail = some []) :
    ∃ fuel', readPlain? false indent fuel p before gap =
      plainRest? indent fuel' (p.advance text.length) (before ++ gap.text ++ text) := by
  induction hwords generalizing fuel p before gap with
  | last hword =>
      have hlength := List.length_pos_iff.mpr hword.some
      obtain ⟨fuel, rfl⟩ : ∃ m, fuel = m + 1 := ⟨fuel - 1, by omega⟩
      exact ⟨fuel, readPlain?_word hword hplace hmark htail⟩
  | @more word n rest hword hn hrest ih =>
      have hlength := List.length_pos_iff.mpr hword.some
      rw [List.length_append, List.length_append, length_spaces] at hfuel
      obtain ⟨fuel, rfl⟩ : ∃ m, fuel = m + 1 := ⟨fuel - 1, by omega⟩
      have hsplit : p.rest = word ++ (spaces n ++ (rest ++ tail)) := by
        rw [hplace, List.append_assoc, List.append_assoc]
      have hafter := Place.rest_advance_append hsplit
      have hnext := Place.rest_advance_spaces hafter
      rw [Place.advance_advance] at hnext
      obtain ⟨n, rfl⟩ : ∃ m, n = m + 1 := ⟨n - 1, by omega⟩
      have hgap : plainWord? false (spaces (n + 1) ++ (rest ++ tail)) = some [] :=
        plainWord?_of_separates rfl
      have hcolumn : (p.advance (word.length + (n + 1))).column =
          p.column + (word.length + (n + 1)) := rfl
      have hstep : plainRest? indent fuel (p.advance word.length) (before ++ gap.text ++ word) =
          readPlain? false indent fuel (p.advance (word.length + (n + 1)))
            (before ++ gap.text ++ word) ⟨spaces (n + 1), false, none, []⟩ := by
        have hindented : ¬ (p.advance (word.length + (n + 1))).column < indent := by omega
        rw [plainRest?, readGap?_blank indent hafter hrest.stops, Place.advance_advance]
        simp only [hafter, hindented, if_false]
        rfl
      have hread : ∃ fuel', readPlain? false indent fuel (p.advance (word.length + (n + 1)))
            (before ++ gap.text ++ word) ⟨spaces (n + 1), false, none, []⟩ = _ :=
        ih hnext (Place.atDocumentMark_of_column (by omega)) (by omega) (by omega)
      obtain ⟨fuel', hread⟩ := hread
      refine ⟨fuel', ?_⟩
      rw [readPlain?_word hword hsplit hmark hgap, hstep, hread, Place.advance_advance]
      simp [Gap.text, length_spaces, Nat.add_assoc]

variable {text rest next : List Char} {indent fuel : Nat} {p : Place}

/-- A plain scalar in front of the colon that makes it a key. -/
theorem readPlain?_key (hwords : Words text) (hplace : p.rest = text ++ ':' :: rest)
    (hmark : p.atDocumentMark = false) (hindent : indent ≤ p.column + 1)
    (hfuel : text.length ≤ fuel) (hrest : endsWord rest = true) :
    readPlain? false indent fuel p [] Gap.none = some ⟨text, p.advance text.length, false⟩ := by
  obtain ⟨fuel', hread⟩ : ∃ fuel', readPlain? false indent fuel p [] Gap.none = _ :=
    readPlain?_words hwords hplace hmark hindent hfuel (plainWord?_colon hrest)
  rw [hread, plainRest?, Place.rest_advance_append hplace]
  rfl

/-- A plain scalar at the end of its line.  The next line is indented less. -/
theorem readPlain?_line (hwords : Words text) {n : Nat}
    (hplace : p.rest = text ++ '\n' :: (spaces n ++ next)) (hmark : p.atDocumentMark = false)
    (hindent : indent ≤ p.column + 1) (hfuel : text.length ≤ fuel) (hnext : Opens next)
    (hless : n < indent) :
    readPlain? false indent fuel p [] Gap.none =
      some ⟨text, (p.advance text.length).nextLine.advance n, true⟩ := by
  obtain ⟨fuel', hread⟩ : ∃ fuel', readPlain? false indent fuel p [] Gap.none = _ :=
    readPlain?_words hwords hplace hmark hindent hfuel (plainWord?_of_separates rfl)
  have hafter := Place.rest_advance_append hplace
  have hcolumn : ((p.advance text.length).nextLine.advance n).column = n := by
    rw [Place.advance, Place.nextLine, hafter]
    exact Nat.zero_add n
  rw [hread, plainRest?, readGap?_line hafter hnext.stops]
  simp only [hafter, hcolumn, hless, if_true]
  rfl

/-! ## Texts that may be plain -/

theorem hasNeighbors_append {q r : Char → Bool} {before : List Char}
    (hnone : hasNeighbors q r (before ++ text) = false) : hasNeighbors q r text = false := by
  induction before with
  | nil => exact hnone
  | cons c before ih =>
      apply ih
      cases hrest : before ++ text with
      | nil => rfl
      | cons d rest =>
          rw [List.cons_append, hrest, hasNeighbors, Bool.or_eq_false_iff] at hnone
          exact hnone.2

theorem hasClosingColon_append {before : List Char}
    (hnone : hasClosingColon (before ++ text) = false) : hasClosingColon text = false := by
  induction before with
  | nil => exact hnone
  | cons c before ih =>
      rw [List.cons_append, hasClosingColon, Bool.or_eq_false_iff] at hnone
      exact ih hnone.2

/-- A colon at the end of a word would be followed by a blank. -/
theorem hasClosingColon_word {word : List Char} (hnone : hasClosingColon (word ++ rest) = false)
    (hrest : endsToken rest = true) : hasClosingColon word = false := by
  induction word with
  | nil => rfl
  | cons c word ih =>
      rw [List.cons_append, hasClosingColon, Bool.or_eq_false_iff] at hnone
      rw [hasClosingColon, ih hnone.2, Bool.or_false]
      cases word with
      | nil =>
          rw [List.nil_append, hrest, Bool.and_true] at hnone
          rw [hnone.1]
          rfl
      | cons d word => exact hnone.1

/-- A text that goes on word by word. -/
structure Flows (text : List Char) : Prop where
  blanks : ∀ c ∈ text, separates c = true → c = ' '
  colons : hasClosingColon text = false
  comments : hasNeighbors isBlankOrBreak (· == '#') text = false
  last : text.getLast? ≠ some ' '

theorem Flows.append {before : List Char} (hsome : text ≠ []) (hflows : Flows (before ++ text)) :
    Flows text where
  blanks c hc := hflows.blanks c (List.mem_append_right _ hc)
  colons := hasClosingColon_append hflows.colons
  comments := hasNeighbors_append hflows.comments
  last := by
    have hlast := hflows.last
    rwa [List.getLast?_append, Option.or_of_isSome (by simp [hsome])] at hlast

theorem Flows.isWord {word : List Char} (hflows : Flows (word ++ rest)) {c : Char}
    (hhead : word.head? = some c) (hmark : c ≠ '#') (hword : ∀ d ∈ word, d ≠ ' ')
    (hrest : endsToken rest = true) : IsWord word where
  some := by
    rintro rfl
    cases hhead
  solid d hd := by
    cases hseparates : separates d with
    | false => rfl
    | true => exact absurd (hflows.blanks d (List.mem_append_left _ hd) hseparates) (hword d hd)
  colons := hasClosingColon_word hflows.colons hrest
  mark := by
    rw [hhead]
    exact fun hsame => hmark (Option.some.inj hsame)

/-- A text is cut behind its first word and behind the spaces after that. -/
theorem Flows.words (hflows : Flows text) {c : Char} (hhead : text.head? = some c)
    (hspace : c ≠ ' ') (hmark : c ≠ '#') : Words text := by
  induction hlength : text.length using Nat.strongRecOn generalizing text c with
  | ind length ih =>
    obtain ⟨word, tail, rfl, hword, htail⟩ := Text.exists_run (· != ' ') text
    have hword : ∀ d ∈ word, d ≠ ' ' := fun d hd => by simpa using hword d hd
    have hfirst : word.head? = some c := by
      cases word with
      | nil =>
          have hother := htail c hhead
          simp [hspace] at hother
      | cons d word => exact hhead
    cases tail with
    | nil =>
        rw [List.append_nil] at hflows ⊢
        exact .last (Flows.isWord (by rwa [List.append_nil]) hfirst hmark hword rfl)
    | cons d tail =>
        have hblank : d = ' ' := by simpa using htail d rfl
        subst hblank
        obtain ⟨n, more, rfl, hmore⟩ := exists_spaces tail
        have hsplit : word ++ ' ' :: (spaces n ++ more) = (word ++ spaces n) ++ ' ' :: more := by
          rw [cons_spaces_append, List.append_assoc]
        have hsome : more ≠ [] := by
          rintro rfl
          rw [hsplit] at hflows
          exact hflows.last (by simp)
        obtain ⟨e, more, rfl⟩ := List.exists_cons_of_ne_nil hsome
        have hother : e ≠ ' ' := by simpa using hmore e rfl
        have hcomment : e ≠ '#' := by
          have hnone := hflows.comments
          rw [hsplit] at hnone
          have hnone := hasNeighbors_append hnone
          rintro rfl
          cases hnone
        have hrest : Flows (e :: more) := by
          have hflows := hflows
          rw [hsplit, List.append_cons] at hflows
          exact hflows.append hsome
        have hmore := ih (e :: more).length (by simp at hlength ⊢; omega) hrest rfl hother hcomment rfl
        have hword := Flows.isWord hflows hfirst hmark hword rfl
        exact .more hword (Nat.succ_pos n) hmore

theorem separates_of_isPrintable {c : Char} (hprintable : isPrintable c = true)
    (hseparates : separates c = true) (hbreak : isLineBreak c = false) : c = ' ' := by
  rw [separates, hbreak, Bool.or_false, isGap, Bool.or_eq_true, beq_iff_eq, beq_iff_eq] at hseparates
  rcases hseparates with rfl | rfl
  · rfl
  · cases hprintable

/-- A text that may be plain is made of words. -/
theorem words_of_plainAllowed (hallowed : plainAllowed text = true) (hsome : text ≠ []) :
    Words text := by
  obtain ⟨c, more, rfl⟩ := List.exists_cons_of_ne_nil hsome
  simp only [plainAllowed, Bool.and_eq_true, Bool.not_eq_true', hasOpenEnd, hasUnprintable,
    hasIndicator, opensOther, Bool.or_eq_false_iff, List.any_eq_false] at hallowed
  obtain ⟨⟨⟨⟨hfirst, hlast⟩, hprintable⟩, hbreaks⟩, ⟨⟨-, hmark⟩, hcolons⟩, hcomments⟩ := hallowed
  have hflows : Flows (c :: more) := by
    refine ⟨fun d hd hseparates => ?_, hcolons, hcomments, fun hspace => ?_⟩
    · have hprintable := hprintable d hd
      have hbreak := hbreaks d hd
      exact separates_of_isPrintable (by simpa using hprintable) hseparates (by simpa using hbreak)
    · rw [hspace] at hlast
      cases hlast
  refine hflows.words rfl ?_ ?_
  · rintro rfl
    cases hfirst
  · rintro rfl
    cases hmark.1

end DesktopTrial.Yaml
