import DesktopTrial.Proofs.Yaml.Plain

/-!
# Literal blocks are found in the text

A literal block is written line by line, each line that is not empty behind its
indentation.  The lines and the breaks between them are read as they are, and the mark in
front of the block says which of the breaks at its end belong to the text.
-/

namespace DesktopTrial.Yaml

open Text (Stops takeWhile_append_of_stops)

variable {p : Place} {text next : List Char} {indent n fuel : Nat}

/-! ## Indentation -/

theorem takeWhile_space {c : Char} {rest : List Char} (hc : c ≠ ' ') :
    (c :: rest).takeWhile (· == ' ') = [] := by
  rw [List.takeWhile_cons_of_neg]
  simpa using hc

theorem Place.column_advance {p : Place} (hcolumn : p.column = 0) (n : Nat) :
    (p.advance n).column = n := by
  rw [advance, hcolumn]
  exact Nat.zero_add n

/-- The spaces in front of a line count up to the column of the block. -/
theorem min_length_indentation (hn : n ≤ indent) (hless : n < indent → Stops isGap next) :
    min ((spaces n ++ next).takeWhile (· == ' ')).length indent = n := by
  rw [List.takeWhile_append_of_pos beq_space_of_mem_spaces, List.length_append, length_spaces]
  rcases Nat.lt_or_ge n indent with hlt | hge
  · have hnone : next.takeWhile (· == ' ') = [] := by
      cases next with
      | nil => rfl
      | cons c next =>
          apply takeWhile_space
          rintro rfl
          cases hless hlt ' ' rfl
    rw [hnone, List.length_nil]
    omega
  · omega

/-- In front of a line that is not empty the indentation is settled. -/
theorem readBlockIndent?_line {b : BlockIndent} (hplace : b.place.rest = spaces n ++ next)
    (hcolumn : b.place.column = 0) (hn : n ≤ indent) (hbreak : Stops isLineBreak next)
    (hless : n < indent → Stops isGap next) :
    readBlockIndent? (some indent) (fuel + 1) b =
      some ⟨b.place.advance n, b.breaks, max b.widest n⟩ := by
  have hwidth : min (b.place.rest.takeWhile (· == ' ')).length (indent - b.place.column) = n := by
    rw [hplace, hcolumn, Nat.sub_zero, min_length_indentation hn hless]
  rw [readBlockIndent?]
  simp only [hwidth, Place.column_advance hcolumn, Place.rest_advance_spaces hplace]
  cases next with
  | nil => rfl
  | cons c more =>
      have htab : (decide (n < indent) && c == '\t') = false := by
        rw [Bool.and_eq_false_iff, decide_eq_false_iff_not, beq_eq_false_iff_ne]
        by_cases hlt : n < indent
        · refine .inr ?_
          rintro rfl
          cases hless hlt '\t' rfl
        · exact .inl hlt
      simp only [htab, hbreak c rfl, Bool.false_eq_true, if_false]

/-- The break of an empty line is collected. -/
theorem readBlockIndent?_feed {b : BlockIndent} {c : Char} {rest : List Char}
    (hc : isFeed c = true) (hplace : b.place.rest = c :: rest) :
    readBlockIndent? (some indent) (fuel + 1) b =
      readBlockIndent? (some indent) fuel
        ⟨b.place.nextLine, b.breaks ++ [c], max b.widest b.place.column⟩ := by
  obtain ⟨hbreak, hgap⟩ := isLineBreak_of_isFeed hc
  have hwidth : min (b.place.rest.takeWhile (· == ' ')).length (indent - b.place.column) = 0 := by
    have hnone : b.place.rest.takeWhile (· == ' ') = [] := by
      rw [hplace]
      apply takeWhile_space
      rintro rfl
      cases hgap
    rw [hnone]
    exact Nat.zero_min _
  have htab : (c == '\t') = false := by
    rw [beq_eq_false_iff_ne]
    rintro rfl
    cases hgap
  have hzero : b.place.advance 0 = b.place := rfl
  rw [readBlockIndent?]
  simp only [hwidth, hzero]
  simp only [hplace, htab, Bool.and_false, Bool.false_eq_true, if_false, hbreak, if_true,
    Place.breakText_of_isFeed hc hplace]

/-- Breaks are collected up to the next line that is not empty.  Indentation counts up to
the column of the block. -/
theorem readBlockIndent?_feeds {feeds : List Char} {b : BlockIndent}
    (hfeeds : ∀ c ∈ feeds, isFeed c = true) (hplace : b.place.rest = feeds ++ (spaces n ++ next))
    (hcolumn : b.place.column = 0) (hn : n ≤ indent) (hbreak : Stops isLineBreak next)
    (hless : n < indent → Stops isGap next) (hfuel : feeds.length < fuel) :
    ∃ p' widest, readBlockIndent? (some indent) fuel b = some ⟨p', b.breaks ++ feeds, widest⟩ ∧
      p'.rest = next ∧ p'.column = n ∧ b.place.line ≤ p'.line := by
  induction feeds generalizing fuel b with
  | nil =>
      obtain ⟨fuel, rfl⟩ : ∃ m, fuel = m + 1 := ⟨fuel - 1, by omega⟩
      refine ⟨b.place.advance n, max b.widest n, ?_, Place.rest_advance_spaces hplace,
        Place.column_advance hcolumn n, Nat.le_refl _⟩
      rw [readBlockIndent?_line hplace hcolumn hn hbreak hless, List.append_nil]
  | cons c feeds ih =>
      obtain ⟨fuel, rfl⟩ : ∃ m, fuel = m + 1 := ⟨fuel - 1, by omega⟩
      have hc := hfeeds c List.mem_cons_self
      have hcons : b.place.rest = c :: (feeds ++ (spaces n ++ next)) := hplace
      have hafter := Place.nextLine_of_isFeed hc hcons
      have hread (widest : Nat) : ∃ p' widest', readBlockIndent? (some indent) fuel
          ⟨b.place.nextLine, b.breaks ++ [c], widest⟩ =
            some ⟨p', b.breaks ++ [c] ++ feeds, widest'⟩ ∧ p'.rest = next ∧ p'.column = n ∧
              b.place.nextLine.line ≤ p'.line :=
        ih (fun d hd => hfeeds d (List.mem_cons_of_mem _ hd)) (by rw [hafter]) (by rw [hafter])
          (Nat.lt_of_succ_lt_succ hfuel)
      obtain ⟨p', widest, hread, hrest, hat, hline⟩ := hread (max b.widest b.place.column)
      rw [hafter] at hline
      refine ⟨p', widest, ?_, hrest, hat, Nat.le_of_succ_le hline⟩
      rw [readBlockIndent?_feed hc hcons, hread, List.append_assoc, List.singleton_append]

/-- The first line settles the indentation when nothing else says it. -/
theorem readBlockIndent?_first {b : BlockIndent} (hplace : b.place.rest = spaces n ++ next)
    (hcolumn : b.place.column = 0) (hstops : Stops separates next) :
    readBlockIndent? none (fuel + 1) b = some ⟨b.place.advance n, b.breaks, max b.widest n⟩ := by
  have hother : Stops (· == ' ') next := hstops.mono fun c hc => by
    rw [beq_iff_eq] at hc
    subst hc
    rfl
  rw [readBlockIndent?]
  simp only [hplace, takeWhile_append_of_stops beq_space_of_mem_spaces hother, length_spaces,
    Place.column_advance hcolumn, Place.rest_advance_spaces hplace]
  cases next with
  | nil => rfl
  | cons c more =>
      have hsolid := hstops c rfl
      rw [separates, Bool.or_eq_false_iff] at hsolid
      have htab : (c == '\t') = false := by
        rw [beq_eq_false_iff_ne]
        rintro rfl
        cases hsolid.1
      simp only [htab, hsolid.2, Bool.and_false, Bool.false_eq_true, if_false]

/-! ## Lines -/

theorem literalLines_feeds {feeds : List Char} (hfeeds : ∀ c ∈ feeds, isLineBreak c = true) :
    literalLines indent true (feeds ++ text) = feeds ++ literalLines indent true text := by
  induction feeds with
  | nil => rfl
  | cons c feeds ih =>
      rw [List.cons_append, literalLines, hfeeds c List.mem_cons_self, if_pos rfl,
        ih fun d hd => hfeeds d (List.mem_cons_of_mem _ hd), List.cons_append]

theorem literalLines_run {line : List Char} (hline : ∀ c ∈ line, isLineBreak c = false) :
    literalLines indent false (line ++ text) = line ++ literalLines indent false text := by
  induction line with
  | nil => rfl
  | cons c line ih =>
      rw [List.cons_append, literalLines, hline c List.mem_cons_self,
        ih fun d hd => hline d (List.mem_cons_of_mem _ hd)]
      rfl

/-- A line that is not empty begins with its indentation. -/
theorem literalLines_lineStart (hsome : text ≠ []) (hstops : Stops isLineBreak text) :
    literalLines indent true text = spaces indent ++ literalLines indent false text := by
  obtain ⟨c, text, rfl⟩ := List.exists_cons_of_ne_nil hsome
  rw [literalLines, literalLines, hstops c rfl]
  simp only [Bool.false_eq_true, if_false, if_true, List.nil_append]

/-- Behind the indentation a line goes on with its own first character. -/
theorem stops_literalLines {rest : List Char} (hsome : text ≠ [])
    (hstops : Stops isLineBreak text) :
    Stops isLineBreak (literalLines indent false text ++ rest) := by
  obtain ⟨c, text, rfl⟩ := List.exists_cons_of_ne_nil hsome
  rw [literalLines, hstops c rfl]
  exact .cons (hstops c rfl)

/-- Behind the empty lines stands a line of the block or, if there is none, what follows the
block.  Only that is indented less. -/
theorem exists_lineStart (hstops : Stops isLineBreak text) (hn : n < indent) (hnext : Opens next) :
    ∃ column rest, literalLines indent true text ++ (spaces n ++ next) = spaces column ++ rest ∧
      column ≤ indent ∧ Stops isLineBreak rest ∧ (column < indent → Stops isGap rest) ∧
      column = (if text = [] then n else indent) ∧
      rest = if text = [] then next else literalLines indent false text ++ (spaces n ++ next) := by
  by_cases hempty : text = []
  · subst hempty
    exact ⟨n, next, rfl, Nat.le_of_lt hn, hnext.stops_isLineBreak, fun _ => hnext.stops_isGap,
      rfl, rfl⟩
  · refine ⟨indent, literalLines indent false text ++ (spaces n ++ next), ?_, Nat.le_refl _,
      stops_literalLines hempty hstops, fun hlt => absurd hlt (Nat.lt_irrefl _), ?_, ?_⟩
    · rw [literalLines_lineStart hempty hstops, List.append_assoc]
    · rw [if_neg hempty]
    · rw [if_neg hempty]

theorem length_le_literalLines (indent : Nat) (atLineStart : Bool) (text : List Char) :
    text.length ≤ (literalLines indent atLineStart text).length := by
  induction text generalizing atLineStart with
  | nil => exact Nat.zero_le _
  | cons c text ih =>
      rw [literalLines]
      split
      · exact Nat.succ_le_succ (ih true)
      · rw [List.length_append, List.length_cons, List.length_cons]
        have hle := ih false
        omega

/-- What is to become of the line breaks at the end of a text. -/
def chomping (text : List Char) : Chomping :=
  match text.reverse with
  | [] => .strip
  | last :: before =>
      if !isLineBreak last then .strip
      else match before with
        | [] => .keep
        | c :: _ => if isLineBreak c then .keep else .clip

theorem chomping_append {before : List Char} (hsome : text ≠ []) (hstops : Stops isLineBreak text) :
    chomping (before ++ text) = chomping text := by
  rw [chomping, chomping, List.reverse_append]
  rcases hreverse : text.reverse with _ | ⟨last, _ | ⟨c, more⟩⟩
  · exact absurd (List.reverse_eq_nil_iff.mp hreverse) hsome
  · obtain rfl : text = [last] := by rw [← List.reverse_reverse text, hreverse]; rfl
    have hother := hstops last rfl
    simp only [List.cons_append, hother, Bool.not_false, if_true]
  · rfl

theorem chomping_line {line : List Char} (hsome : line ≠ [])
    (hline : ∀ c ∈ line, isLineBreak c = false) : chomping line = .strip := by
  have hlast := hline _ (List.getLast_mem hsome)
  rw [chomping, ← List.dropLast_concat_getLast hsome, List.reverse_append]
  simp only [List.reverse_singleton, List.singleton_append, hlast, Bool.not_false, if_true]

theorem chomping_clip {line : List Char} {c : Char} (hsome : line ≠ [])
    (hline : ∀ c ∈ line, isLineBreak c = false) (hc : isLineBreak c = true) :
    chomping (line ++ [c]) = .clip := by
  have hlast := hline _ (List.getLast_mem hsome)
  rw [chomping, ← List.dropLast_concat_getLast hsome, List.reverse_append, List.reverse_append]
  simp only [List.reverse_singleton, List.singleton_append, hc, hlast, Bool.not_true,
    Bool.false_eq_true, if_false]

theorem chomping_keep {before feeds : List Char} {c : Char} (hsome : feeds ≠ [])
    (hc : isLineBreak c = true) (hfeeds : ∀ d ∈ feeds, isLineBreak d = true) :
    chomping (before ++ c :: feeds) = .keep := by
  have hlast := hfeeds _ (List.getLast_mem hsome)
  rw [chomping, ← List.dropLast_concat_getLast hsome, ← List.cons_append, List.reverse_append,
    List.reverse_append]
  simp only [List.reverse_singleton, hlast, Bool.not_true, Bool.false_eq_true, if_false,
    List.cons_append]
  rcases hreverse : (c :: feeds.dropLast).reverse with _ | ⟨d, more⟩
  · simp at hreverse
  · have hmem : d ∈ c :: feeds.dropLast := by
      rw [← List.mem_reverse, hreverse]
      exact List.mem_cons_self
    have hd : isLineBreak d = true := by
      rcases List.mem_cons.mp hmem with rfl | hmem
      · exact hc
      · exact hfeeds d (List.dropLast_subset _ hmem)
    simp only [List.nil_append, List.cons_append, hd, if_true]

/-- The text of a block, with the breaks at its end that belong to it. -/
def BlockText.chomped (b : BlockText) : Chomping → List Char
  | .strip => b.text
  | .clip => b.text ++ b.lastBreak
  | .keep => b.text ++ b.lastBreak ++ b.breaks

/-- A block ends at a line that is indented less. -/
theorem readBlockLines?_stop {literal led : Bool} {b : BlockText} (hcolumn : b.place.column ≠ indent) :
    readBlockLines? literal indent (fuel + 1) led b = some b := by
  rw [readBlockLines?]
  split
  · rfl
  · rw [if_pos hcolumn]

/-- A line is added to the text and the breaks behind it are remembered. -/
theorem readBlockLines?_line {led : Bool} {b : BlockText} {line rest feeds : List Char} {c : Char}
    (hsome : line ≠ []) (hline : ∀ d ∈ line, isLineBreak d = false) (hc : isFeed c = true)
    (hfeeds : ∀ d ∈ feeds, isFeed d = true)
    (hplace : b.place.rest = line ++ c :: (feeds ++ (spaces n ++ rest)))
    (hcolumn : b.place.column = indent) (hn : n ≤ indent) (hbreak : Stops isLineBreak rest)
    (hless : n < indent → Stops isGap rest) :
    ∃ led' p', readBlockLines? true indent (fuel + 1) led b =
        readBlockLines? true indent fuel led'
          ⟨b.text ++ b.lastBreak ++ b.breaks ++ line, [c], feeds, p'⟩ ∧
      p'.rest = rest ∧ p'.column = n ∧ b.place.line < p'.line := by
  have hafter := Place.rest_advance_append hplace
  have hnext := Place.nextLine_of_isFeed hc hafter
  have htake : b.place.rest.takeWhile (fun d => !isLineBreak d) = line := by
    rw [hplace]
    refine takeWhile_append_of_stops (fun d hd => ?_) (.cons ?_)
    · rw [hline d hd]
      rfl
    · rw [(isLineBreak_of_isFeed hc).1]
      rfl
  have hread : ∃ p' widest, readBlockIndent? (some indent)
      ((b.place.advance line.length).rest.length + 1)
        ⟨(b.place.advance line.length).nextLine, [], 0⟩ = some ⟨p', [] ++ feeds, widest⟩ ∧
          p'.rest = rest ∧ p'.column = n ∧ (b.place.advance line.length).nextLine.line ≤ p'.line :=
    readBlockIndent?_feeds hfeeds (by rw [hnext]) (by rw [hnext]) hn hbreak hless
      (by rw [hafter, List.length_cons, List.length_append]; omega)
  obtain ⟨p', widest, hread, hrest, hat, hlines⟩ := hread
  obtain ⟨first, more, rfl⟩ := List.exists_cons_of_ne_nil hsome
  refine ⟨isGap first, p', ?_, hrest, hat, ?_⟩
  · rw [readBlockLines?]
    simp only [htake, hread, Place.breakText_of_isFeed hc hafter, hcolumn]
    simp only [hplace, List.cons_append, ne_eq, not_true, if_false, Bool.not_true, Bool.false_and,
      Bool.false_eq_true, List.nil_append]
  · rw [hnext] at hlines
    exact hlines

/-- The last line of a block is read with the breaks up to the line that is indented less. -/
theorem readBlockLines?_lastLine {led : Bool} {b : BlockText} {line feeds : List Char} {c : Char}
    (hsome : line ≠ []) (hline : ∀ d ∈ line, isLineBreak d = false) (hc : isFeed c = true)
    (hfeeds : ∀ d ∈ feeds, isFeed d = true)
    (hplace : b.place.rest = line ++ c :: (feeds ++ (spaces n ++ next)))
    (hcolumn : b.place.column = indent) (hn : n < indent) (hnext : Opens next) :
    ∃ p', readBlockLines? true indent (fuel + 2) led b =
        some ⟨b.text ++ b.lastBreak ++ b.breaks ++ line, [c], feeds, p'⟩ ∧
      p'.rest = next ∧ p'.column = n ∧ b.place.line < p'.line := by
  have hread : ∃ led' p', readBlockLines? true indent (fuel + 2) led b =
      readBlockLines? true indent (fuel + 1) led'
        ⟨b.text ++ b.lastBreak ++ b.breaks ++ line, [c], feeds, p'⟩ ∧
      p'.rest = next ∧ p'.column = n ∧ b.place.line < p'.line :=
    readBlockLines?_line hsome hline hc hfeeds hplace hcolumn (Nat.le_of_lt hn)
      hnext.stops_isLineBreak fun _ => hnext.stops_isGap
  obtain ⟨led', p', hread, hrest, hat, hlines⟩ := hread
  have hless : p'.column ≠ indent := by
    rw [hat]
    exact Nat.ne_of_lt hn
  exact ⟨p', hread.trans (readBlockLines?_stop hless), hrest, hat, hlines⟩

/-- The breaks behind the last line are those that belong to the text. -/
theorem chomped_lastLine {before line feeds : List Char} {c : Char} (hsome : line ≠ [])
    (hline : ∀ d ∈ line, isLineBreak d = false) (hc : isLineBreak c = true)
    (hfeeds : ∀ d ∈ feeds, isLineBreak d = true) :
    BlockText.chomped ⟨before ++ line, [c], feeds, p⟩ (chomping (line ++ c :: feeds)) =
      before ++ (line ++ c :: feeds) := by
  by_cases hone : feeds = []
  · rw [hone, chomping_clip hsome hline hc, BlockText.chomped, List.append_assoc]
  · rw [chomping_keep hone hc hfeeds, BlockText.chomped]
    simp only [List.append_assoc, List.singleton_append]

/-- The lines of a block are read up to the next line that is indented less.  Line by line
the text is cut behind the breaks that end the line. -/
theorem readBlockLines?_literalLines {led : Bool} {b : BlockText} (hsome : text ≠ [])
    (hstops : Stops isLineBreak text) (hfeeds : ∀ c ∈ text, isLineBreak c = true → isFeed c = true)
    (hplace : b.place.rest = literalLines indent false text ++ (spaces n ++ next))
    (hcolumn : b.place.column = indent) (hn : n < indent) (hnext : Opens next)
    (hfuel : text.length < fuel) :
    ∃ b', readBlockLines? true indent fuel led b = some b' ∧
      b'.chomped (chomping text) = b.text ++ b.lastBreak ++ b.breaks ++ text ∧
      b'.place.rest = next ∧ b'.place.column = n ∧ b.place.line ≤ b'.place.line := by
  induction hlength : text.length using Nat.strongRecOn generalizing text fuel led b with
  | ind length ih =>
    obtain ⟨line, tail, rfl, hrun, htail⟩ := Text.exists_run (fun c => !isLineBreak c) text
    have hline : ∀ c ∈ line, isLineBreak c = false := fun c hc => by simpa using hrun c hc
    have hlineSome : line ≠ [] := by
      rintro rfl
      obtain ⟨c, tail, rfl⟩ := List.exists_cons_of_ne_nil hsome
      have hbreak : isLineBreak c = true := by simpa using htail c rfl
      rw [hstops c rfl] at hbreak
      cases hbreak
    have hpositive := List.length_pos_iff.mpr hlineSome
    rw [List.length_append] at hfuel
    obtain ⟨fuel, rfl⟩ : ∃ m, fuel = m + 2 := ⟨fuel - 2, by omega⟩
    rw [literalLines_run hline, List.append_assoc] at hplace
    cases tail with
    | nil =>
        obtain ⟨p', hread, hrest, hat, hlines⟩ := readBlockLines?_lastLine hlineSome hline
          (rfl : isFeed '\n' = true) (List.forall_mem_nil _) hplace hcolumn hn hnext
        refine ⟨_, hread, ?_, hrest, hat, Nat.le_of_lt hlines⟩
        rw [List.append_nil, chomping_line hlineSome hline]
        rfl
    | cons c tail =>
        have hc : isLineBreak c = true := by simpa using htail c rfl
        have hcfeed := hfeeds c (by simp) hc
        obtain ⟨feeds, text, rfl, hbreaks, htext⟩ := Text.exists_run isLineBreak tail
        have hfeeds' : ∀ d ∈ feeds, isFeed d = true := fun d hd =>
          hfeeds d (by simp [hd]) (hbreaks d hd)
        rw [literalLines, hc, if_pos rfl, literalLines_feeds hbreaks, List.cons_append,
          List.append_assoc] at hplace
        by_cases hmore : text = []
        · subst hmore
          obtain ⟨p', hread, hrest, hat, hlines⟩ := readBlockLines?_lastLine hlineSome hline hcfeed
            hfeeds' hplace hcolumn hn hnext
          refine ⟨_, hread, ?_, hrest, hat, Nat.le_of_lt hlines⟩
          rw [List.append_nil, chomped_lastLine hlineSome hline hc hbreaks]
        · rw [literalLines_lineStart hmore htext, List.append_assoc] at hplace
          have hread : ∃ led' p', readBlockLines? true indent (fuel + 2) led b =
              readBlockLines? true indent (fuel + 1) led'
                ⟨b.text ++ b.lastBreak ++ b.breaks ++ line, [c], feeds, p'⟩ ∧
              p'.rest = literalLines indent false text ++ (spaces n ++ next) ∧
              p'.column = indent ∧ b.place.line < p'.line :=
            readBlockLines?_line hlineSome hline hcfeed hfeeds' hplace hcolumn (Nat.le_refl _)
              (stops_literalLines hmore htext) fun hlt => absurd hlt (Nat.lt_irrefl _)
          obtain ⟨led', p', hread, hrest, hat, hlines⟩ := hread
          simp only [List.length_append, List.length_cons] at hlength hfuel
          have hshorter : text.length < length := by omega
          have hless : text.length < fuel + 1 := by omega
          have hmoreRead : ∃ b', readBlockLines? true indent (fuel + 1) led'
              ⟨b.text ++ b.lastBreak ++ b.breaks ++ line, [c], feeds, p'⟩ = some b' ∧
                b'.chomped (chomping text) =
                  b.text ++ b.lastBreak ++ b.breaks ++ line ++ [c] ++ feeds ++ text ∧
                b'.place.rest = next ∧ b'.place.column = n ∧ p'.line ≤ b'.place.line :=
            ih text.length hshorter hmore htext (fun d hd => hfeeds d (by simp [hd])) hrest hat hless
              rfl
          obtain ⟨b', hmoreRead, hchomped, hrest', hat', hlines'⟩ := hmoreRead
          refine ⟨b', hread.trans hmoreRead, ?_, hrest', hat',
            Nat.le_trans (Nat.le_of_lt hlines) hlines'⟩
          have hsplit : line ++ c :: (feeds ++ text) = (line ++ c :: feeds) ++ text := by
            rw [List.append_assoc, List.cons_append]
          rw [hsplit, chomping_append hmore htext, hchomped]
          simp only [List.append_assoc, List.cons_append, List.nil_append]

/-! ## Blocks -/

def Chomping.mark : Chomping → List Char
  | .strip => ['-']
  | .clip => []
  | .keep => ['+']

def needsHint (text : List Char) : Bool := text.head?.any fun c => isSpace c || isLineBreak c

def hintMark (hinted : Bool) : List Char := if hinted then ['2'] else []

theorem literalMark_eq (text : List Char) :
    literalMark text = '|' :: (hintMark (needsHint text) ++ (chomping text).mark) := by
  have hhint : (if text.head?.any fun c => isSpace c || isLineBreak c then ['2'] else []) =
      hintMark (needsHint text) := rfl
  rw [literalMark, chomping, hhint]
  rcases text.reverse with _ | ⟨last, _ | ⟨c, more⟩⟩
  · rfl
  · cases hlast : isLineBreak last <;> simp [hlast, Chomping.mark]
  · cases hlast : isLineBreak last <;> cases hc : isLineBreak c <;> simp [hlast, hc, Chomping.mark]

theorem readBlockHeader?_mark {hinted : Bool} {chomping : Chomping} {rest : List Char}
    (hplace : p.rest = hintMark hinted ++ (chomping.mark ++ '\n' :: rest)) :
    ∃ p', readBlockHeader? p = some (chomping, if hinted then some 2 else none, p') ∧
      p'.rest = '\n' :: rest ∧ p'.line = p.line := by
  refine ⟨p.advance ((hintMark hinted).length + chomping.mark.length), ?_, ?_, rfl⟩
  · cases hinted <;> cases chomping <;> rw [readBlockHeader?, hplace] <;> rfl
  · rw [← Place.advance_advance]
    exact Place.rest_advance_append (Place.rest_advance_append hplace)

/-- The text of a block is read from its first line on. -/
theorem readBlockLines?_literal {feeds : List Char}
    (hfeeds : ∀ c ∈ feeds ++ text, isLineBreak c = true → isFeed c = true)
    (hlead : ∀ c ∈ feeds, isLineBreak c = true) (hstops : Stops isLineBreak text)
    (hsome : feeds ++ text ≠ [])
    (hplace : p.rest = if text = [] then next else literalLines indent false text ++ (spaces n ++ next))
    (hcolumn : p.column = if text = [] then n else indent) (hn : n < indent) (hnext : Opens next)
    (hfuel : text.length < fuel) :
    ∃ b', readBlockLines? true indent fuel false ⟨[], [], feeds, p⟩ = some b' ∧
      b'.chomped (chomping (feeds ++ text)) = feeds ++ text ∧
      b'.place.rest = next ∧ b'.place.column = n ∧ p.line ≤ b'.place.line := by
  by_cases hempty : text = []
  · rw [if_pos hempty] at hplace hcolumn
    obtain ⟨fuel, rfl⟩ : ∃ m, fuel = m + 1 := ⟨fuel - 1, by omega⟩
    subst hempty
    rw [List.append_nil] at hsome ⊢
    have hkeep : chomping feeds = .keep := by
      obtain ⟨c, feeds, rfl⟩ := List.exists_cons_of_ne_nil hsome
      have hc := hlead c List.mem_cons_self
      by_cases hone : feeds = []
      · rw [hone, chomping]
        simp only [List.reverse_singleton, hc, Bool.not_true, Bool.false_eq_true, if_false]
      · have hkeep : chomping ([] ++ c :: feeds) = .keep :=
          chomping_keep hone hc fun d hd => hlead d (List.mem_cons_of_mem _ hd)
        exact hkeep
    refine ⟨_, readBlockLines?_stop (by rw [hcolumn]; exact Nat.ne_of_lt hn), ?_, hplace, hcolumn,
      Nat.le_refl _⟩
    rw [hkeep]
    rfl
  · rw [if_neg hempty] at hplace hcolumn
    have hread : ∃ b', readBlockLines? true indent fuel false ⟨[], [], feeds, p⟩ = some b' ∧
        b'.chomped (chomping text) = [] ++ [] ++ feeds ++ text ∧
        b'.place.rest = next ∧ b'.place.column = n ∧ p.line ≤ b'.place.line :=
      readBlockLines?_literalLines hempty hstops (fun c hc => hfeeds c (List.mem_append_right _ hc))
        hplace hcolumn hn hnext hfuel
    rw [chomping_append hempty hstops]
    exact hread

structure Literal (text : List Char) : Prop where
  some : text ≠ []
  printable : ∀ c ∈ text, isPrintable c = true

theorem Literal.isFeed (hliteral : Literal text) :
    ∀ c ∈ text, isLineBreak c = true → isFeed c = true := by
  intro c hc hbreak
  rw [Yaml.isFeed, hbreak, hliteral.printable c hc]
  rfl

/-- The indentation of a block is settled, and the breaks in front of its first line that is
not empty are collected. -/
theorem readBlockIndent?_lead {parent : Nat} (hliteral : Literal text)
    (hplace : p.rest = literalLines (parent + 2) true text ++ (spaces n ++ next))
    (hcolumn : p.column = 0) (hn : n ≤ parent) (hnext : Opens next) :
    ∃ feeds more p' widest, text = feeds ++ more ∧ (∀ c ∈ feeds, isLineBreak c = true) ∧
      Stops isLineBreak more ∧
      readBlockIndent? (if needsHint text then some (parent + 2) else none) (p.rest.length + 1)
        ⟨p, [], 0⟩ = some ⟨p', feeds, widest⟩ ∧
      (needsHint text = false → widest = parent + 2) ∧
      p'.rest = (if more = [] then next else
        literalLines (parent + 2) false more ++ (spaces n ++ next)) ∧
      p'.column = (if more = [] then n else parent + 2) ∧ p.line ≤ p'.line := by
  obtain ⟨feeds, more, rfl, hlead, hmore⟩ := Text.exists_run isLineBreak text
  have hfeeds : ∀ c ∈ feeds, isFeed c = true := fun c hc =>
    hliteral.isFeed c (List.mem_append_left _ hc) (hlead c hc)
  rw [literalLines_feeds hlead, List.append_assoc] at hplace
  cases hhint : needsHint (feeds ++ more) with
  | true =>
      have hlong : feeds.length < p.rest.length + 1 := by
        rw [hplace, List.length_append]
        omega
      obtain ⟨column, rest, hsplit, hle, hbreak, hgap, hwhere, hbehind⟩ :=
        exists_lineStart hmore (Nat.lt_add_right 1 (Nat.lt_succ_of_le hn)) hnext
      rw [hsplit] at hplace
      have hread : ∃ p' widest, readBlockIndent? (some (parent + 2)) (p.rest.length + 1)
          ⟨p, [], 0⟩ = some ⟨p', [] ++ feeds, widest⟩ ∧ p'.rest = rest ∧ p'.column = column ∧
            p.line ≤ p'.line :=
        readBlockIndent?_feeds hfeeds hplace hcolumn hle hbreak hgap hlong
      obtain ⟨p', widest, hread, hrest, hat, hline⟩ := hread
      exact ⟨feeds, more, p', widest, rfl, hlead, hmore, hread, nofun, hrest.trans hbehind,
        hat.trans hwhere, hline⟩
  | false =>
      -- The text begins with the first character of a line.
      obtain rfl : feeds = [] := by
        cases feeds with
        | nil => rfl
        | cons c feeds =>
            have hc := hlead c List.mem_cons_self
            rw [needsHint, List.cons_append, List.head?_cons, Option.any_some, hc, Bool.or_true]
              at hhint
            cases hhint
      have hempty : more ≠ [] := hliteral.some
      have hsolid : Stops separates (literalLines (parent + 2) false more ++ (spaces n ++ next)) := by
        obtain ⟨c, more, rfl⟩ := List.exists_cons_of_ne_nil hempty
        have hbreak := hmore c rfl
        rw [literalLines, hbreak]
        refine .cons (Bool.eq_false_iff.mpr fun hseparates => ?_)
        have hprintable := hliteral.printable c (by simp)
        rw [separates_of_isPrintable hprintable hseparates hbreak] at hhint
        cases hhint
      rw [List.nil_append, literalLines_lineStart hempty hmore, List.append_assoc] at hplace
      refine ⟨[], more, p.advance (parent + 2), max 0 (parent + 2), rfl, hlead, hmore,
        readBlockIndent?_first hplace hcolumn hsolid, fun _ => Nat.zero_max _, ?_, ?_, Nat.le_refl _⟩
      · rw [if_neg hempty, Place.rest_advance_spaces hplace]
      · rw [if_neg hempty, Place.column_advance hcolumn]

/-- A block is read in three steps: its mark, its indentation and its lines. -/
theorem readBlock?_of_lines {parent : Nat} {chomping : Chomping} {increment : Option Nat}
    {p₁ p₂ : Place} {rest breaks : List Char} {widest : Nat} {b : BlockText}
    (hheader : readBlockHeader? p = some (chomping, increment, p₁)) (hplace : p₁.rest = '\n' :: rest)
    (hlead : readBlockIndent? (increment.map (parent + ·)) (p₁.nextLine.rest.length + 1)
      ⟨p₁.nextLine, [], 0⟩ = some ⟨p₂, breaks, widest⟩)
    (hindent : (increment.map (parent + ·)).getD (max widest (parent + 1)) = indent)
    (hlines : readBlockLines? true indent (p₂.rest.length + 1) false ⟨[], [], breaks, p₂⟩ = some b) :
    readBlock? true parent p = some ⟨b.chomped chomping, b.place, false⟩ := by
  have hskip : p₁.skipWhile isGap = p₁ := by
    rw [Place.skipWhile, hplace]
    rfl
  have hparent : (max (parent : Int) 0).toNat = parent := by omega
  have hleast : (max ((parent : Int) + 1) 1).toNat = parent + 1 := by omega
  have hcomment : (p₁.rest.head? == some '#') = false := by rw [hplace]; rfl
  have hends : endsLine p₁.rest = true := by rw [hplace]; rfl
  rw [readBlock?, hheader]
  simp only [hskip, hcomment, hends, hparent, hleast, Bool.false_eq_true, if_false, Bool.not_true,
    hlead, hindent, hlines]
  cases chomping with
  | strip =>
      rw [List.append_nil]
      rfl
  | clip => rfl
  | keep =>
      rw [BlockText.chomped, List.append_assoc]

/-- A literal block is read up to the next line that is indented less. -/
theorem readBlock?_literal {parent : Nat} (hliteral : Literal text)
    (hplace : '|' :: p.rest = literalMark text ++
      '\n' :: (literalLines (parent + 2) true text ++ (spaces n ++ next)))
    (hn : n ≤ parent) (hnext : Opens next) :
    ∃ p', readBlock? true parent p = some ⟨text, p', false⟩ ∧ p'.rest = next ∧ p'.column = n ∧
      p.line < p'.line := by
  rw [literalMark_eq, List.cons_append, List.cons.injEq, List.append_assoc] at hplace
  obtain ⟨p₁, hheader, hrest₁, hline₁⟩ := readBlockHeader?_mark hplace.2
  have hnextLine := Place.nextLine_of_isFeed (rfl : isFeed '\n' = true) hrest₁
  obtain ⟨feeds, more, p₂, widest, rfl, hfeeds, hmore, hlead, hwidest, hrest₂, hcolumn₂, hline₂⟩ :=
    readBlockIndent?_lead (p := p₁.nextLine) hliteral (by rw [hnextLine]) (by rw [hnextLine]) hn hnext
  have hlong : more.length < p₂.rest.length + 1 := by
    rw [hrest₂]
    split
    · rename_i hempty
      rw [hempty]
      exact Nat.succ_pos _
    · have hle := length_le_literalLines (parent + 2) false more
      rw [List.length_append]
      omega
  obtain ⟨b, hlines, hchomped, hrest, hcolumn, hline⟩ := readBlockLines?_literal hliteral.isFeed
    hfeeds hmore hliteral.some hrest₂ hcolumn₂ (by omega) hnext hlong
  have hgiven : readBlockIndent? ((if needsHint (feeds ++ more) then some 2 else none).map (parent + ·))
      (p₁.nextLine.rest.length + 1) ⟨p₁.nextLine, [], 0⟩ = some ⟨p₂, feeds, widest⟩ := by
    cases hhint : needsHint (feeds ++ more) <;> rw [hhint] at hlead <;> exact hlead
  have hindent : ((if needsHint (feeds ++ more) then some 2 else none).map (parent + ·)).getD
      (max widest (parent + 1)) = parent + 2 := by
    cases hhint : needsHint (feeds ++ more)
    · rw [hwidest hhint]
      exact Nat.max_eq_left (Nat.le_succ _)
    · rfl
  refine ⟨b.place, ?_, hrest, hcolumn, ?_⟩
  · rw [readBlock?_of_lines hheader hrest₁ hgiven hindent hlines, hchomped]
  · rw [hnextLine] at hline₂
    exact Nat.lt_of_lt_of_le (hline₁ ▸ Nat.lt_succ_self _) (Nat.le_trans hline₂ hline)

end DesktopTrial.Yaml
