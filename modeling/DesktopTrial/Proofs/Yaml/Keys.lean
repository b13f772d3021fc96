import DesktopTrial.Proofs.Yaml.Lines

/-!
# Keys are found on their lines

A key that is short and has no line breaks stands in front of its colon.  The colon follows
within the reach of a candidate, because no character is written with more than four times
its bytes.
-/

namespace DesktopTrial.Yaml

open Text (Stops)

/-! ## The width of a key -/

theorem utf8Size_eq (c : Char) : c.utf8Size =
    if c.toNat ≤ 0x7F then 1 else if c.toNat ≤ 0x7FF then 2 else if c.toNat ≤ 0xFFFF then 3 else 4 := by
  rw [Char.utf8Size]
  simp only [UInt32.le_iff_toNat_le]
  rfl

theorem length_escapeSequence_le (c : Char) : (escapeSequence c).length ≤ 4 * c.utf8Size := by
  have hsome : 0 < c.utf8Size := c.utf8Size_pos
  rw [escapeSequence]
  split
  · simp only [List.length_cons, List.length_nil]
    omega
  · dsimp only
    split
    · simp only [List.length_cons, length_upperHex]
      omega
    · split
      · have hwide : 2 ≤ c.utf8Size := by
          rw [utf8Size_eq, if_neg (by omega)]
          split <;> omega
        simp only [List.length_cons, length_upperHex]
        omega
      · have hwide : c.utf8Size = 4 := by
          rw [utf8Size_eq, if_neg (by omega), if_neg (by omega), if_neg (by omega)]
        simp only [List.length_cons, length_upperHex]
        omega

theorem length_doubleQuotedChar_le (c : Char) : (doubleQuotedChar c).length ≤ 4 * c.utf8Size := by
  have hsome : 0 < c.utf8Size := c.utf8Size_pos
  rw [doubleQuotedChar]
  split
  · exact length_escapeSequence_le c
  · rw [List.length_singleton]
    omega

theorem length_singleQuotedChar_le (c : Char) : (singleQuotedChar c).length ≤ 4 * c.utf8Size := by
  have hsome : 0 < c.utf8Size := c.utf8Size_pos
  rw [singleQuotedChar]
  split <;> simp only [List.length_cons, List.length_nil] <;> omega

/-- What is written for a text has at most four characters for each of its bytes. -/
theorem length_flatMap_le {write : Char → List Char}
    (hwrite : ∀ c, (write c).length ≤ 4 * c.utf8Size) (text : String) :
    (text.toList.flatMap write).length ≤ 4 * text.utf8ByteSize := by
  have hlist (chars : List Char) :
      (chars.flatMap write).length ≤ 4 * (String.ofList chars).utf8ByteSize := by
    induction chars with
    | nil => exact Nat.zero_le _
    | cons c chars ih =>
        have hsize : (String.ofList (c :: chars)).utf8ByteSize =
            c.utf8Size + (String.ofList chars).utf8ByteSize := by
          rw [← List.singleton_append, String.ofList_append, String.utf8ByteSize_append]
          congr 1
          exact String.utf8ByteSize_singleton
        have hc := hwrite c
        rw [List.flatMap_cons, List.length_append, hsize]
        omega
  have htext := hlist text.toList
  rwa [String.ofList_toList] at htext

/-! ## Characters of a key -/

theorem isLineBreak_of_mem_upperHex {width n : Nat} :
    ∀ c ∈ upperHex width n, isLineBreak c = false := by
  induction width generalizing n with
  | zero => simp [upperHex]
  | succ width ih =>
      intro c hc
      rw [upperHex, List.mem_append, List.mem_singleton] at hc
      rcases hc with hc | rfl
      · exact ih c hc
      · have hdigit : ∀ d < 16, isLineBreak (upperHexDigit d) = false := by decide
        exact hdigit _ (Nat.mod_lt n (by decide))

theorem isLineBreak_of_mem_escapeSequence {c : Char} :
    ∀ d ∈ escapeSequence c, isLineBreak d = false := by
  intro d hd
  rw [escapeSequence, List.mem_cons] at hd
  rcases hd with rfl | hd
  · rfl
  · split at hd
    · rename_i letter hletter
      rw [List.mem_singleton.mp hd]
      exact (escapeLetter?_of_some hletter).1
    · have hdigits {letter : Char} {width n : Nat} (hletter : isLineBreak letter = false)
          (hd : d ∈ letter :: upperHex width n) : isLineBreak d = false := by
        rcases List.mem_cons.mp hd with rfl | hd
        · exact hletter
        · exact isLineBreak_of_mem_upperHex d hd
      dsimp only at hd
      split at hd
      · exact hdigits rfl hd
      · split at hd
        · exact hdigits rfl hd
        · exact hdigits rfl hd

theorem isLineBreak_of_mem_doubleQuotedChar {c : Char} :
    ∀ d ∈ doubleQuotedChar c, isLineBreak d = false := by
  intro d hd
  rw [doubleQuotedChar] at hd
  split at hd
  · exact isLineBreak_of_mem_escapeSequence d hd
  · rename_i hverbatim
    simp only [Bool.or_eq_true, not_or, Bool.not_eq_true] at hverbatim
    rw [List.mem_singleton.mp hd]
    exact hverbatim.1.1.2

theorem isLineBreak_of_mem_singleQuotedChar {c : Char} (hc : isLineBreak c = false) :
    ∀ d ∈ singleQuotedChar c, isLineBreak d = false := by
  intro d hd
  rw [singleQuotedChar] at hd
  split at hd
  · simp only [List.mem_cons, List.not_mem_nil, or_false, or_self] at hd
    rw [hd]
    rfl
  · rw [List.mem_singleton.mp hd]
    exact hc

/-! ## Keys -/

variable {p : Place} {rest written : List Char} {key : String} {tokens tokens' : List Token}
  {indents indents' : List Nat} {column : Nat} {result : List Token}

/-- A key in front of its colon, as it is written and as it is read. -/
structure KeyText (key : String) (first : Char) (more : List Char) : Prop where
  /-- The colon comes before the candidate is given up. -/
  short : more.length < 1024
  opens : ∀ rest, Opens (first :: rest)
  read : ∀ {p : Place} {rest : List Char} (tokens : List Token) {indents : List Nat},
    endsWord rest = true → p.rest = first :: (more ++ ':' :: rest) →
      (∀ m ∈ indents.head?, m ≤ p.column) →
      (Scan.inBlock p tokens indents true none).token? first (more ++ ':' :: rest) =
        (Scan.inBlock p tokens indents true none).scalar? (presentation key)
          (some ⟨key.toList, p.advance (more.length + 1), false⟩)

/-- A plain key does not look like the mark of a document. -/
theorem not_atDocumentMark_of_plainAllowed {text : List Char} (hallowed : plainAllowed text = true)
    (hplace : p.rest = text ++ ':' :: rest) : p.atDocumentMark = false := by
  simp only [plainAllowed, hasIndicator, opensOther, Bool.and_eq_true, Bool.not_eq_true',
    Bool.or_eq_false_iff] at hallowed
  obtain ⟨-, ⟨⟨⟨hhyphens, hpoints⟩, -⟩, -⟩, -⟩ := hallowed
  rw [Place.atDocumentMark, hplace]
  rcases text with _ | ⟨a, _ | ⟨b, _ | ⟨c, text⟩⟩⟩
  · exact Bool.and_false _
  all_goals
    rw [Bool.and_eq_false_iff]
    refine .inr ?_
    split
    · rename_i heq
      cases heq <;> cases hhyphens
    · rename_i heq
      cases heq <;> cases hpoints
    · rfl

/-- A key without quotes. -/
theorem KeyText.plain {first : Char} {more : List Char} (hchars : key.toList = first :: more)
    (hstyle : presentation key = .plain) (hallowed : plainAllowed (first :: more) = true)
    (hshort : more.length < 1024) : KeyText key first more where
  short := hshort
  opens rest := by
    have hopens : OpensPlain first (more ++ rest) := opensPlain_of_plainAllowed hallowed
    exact hopens.opens
  read := by
    intro p rest tokens indents hrest hplace hindents
    have hcons : p.rest = (first :: more) ++ ':' :: rest := hplace
    have hopens : OpensPlain first (more ++ ':' :: rest) := opensPlain_of_plainAllowed hallowed
    have hmark := not_atDocumentMark_of_plainAllowed hallowed hcons
    have hindent : ((Scan.inBlock p tokens indents true none).indent + 1).toNat ≤ p.column + 1 := by
      rw [Scan.indent]
      cases hcases : indents with
      | nil => exact Nat.zero_le _
      | cons m outer =>
          have hle := hindents m (by rw [hcases]; rfl)
          simp only [List.head?_cons, Option.map_some, Option.getD_some, Int.ofNat_eq_natCast]
          omega
    have hlong : (first :: more).length ≤ p.rest.length + 1 := by
      rw [hcons, List.length_append]
      omega
    have hwords := words_of_plainAllowed hallowed (List.cons_ne_nil first more)
    rw [Scan.token?_plain hopens hmark, hstyle, hchars,
      readPlain?_key hwords hcons hmark hindent hlong hrest]
    rfl

/-- A key between quotes. -/
theorem KeyText.quoted {quotes : Quotes} {n : Nat}
    (hstyle : presentation key = if quotes.single then .singleQuoted else .doubleQuoted)
    (hquoted : QuotedText quotes (n + 1) key.toList written)
    (hline : ∀ c ∈ written, isLineBreak c = false) (hshort : written.length + 1 < 1024) :
    KeyText key quotes.mark (written ++ [quotes.mark]) where
  short := by
    rw [List.length_append]
    exact hshort
  opens _ := quotes.opens
  read := by
    intro p rest tokens indents hrest hplace hindents
    rw [List.append_assoc] at hplace
    have hmark : p.atDocumentMark = false := by
      rw [Place.atDocumentMark, hplace, Quotes.mark]
      cases quotes.single <;> exact Bool.and_false _
    have hinside : p.next.rest = written ++ quotes.mark :: ':' :: rest := by
      rw [Place.next, hplace]
      rfl
    have hlong : key.toList.length < p.rest.length + 1 := by
      have hle := hquoted.length_le
      rw [hplace, List.length_cons, List.length_append]
      omega
    obtain ⟨p', hread, -, -, hsame⟩ := hquoted.read [] hinside (by simp)
      (Place.atDocumentMark_of_column (Nat.succ_pos _)) (Nat.succ_pos _) hlong
    have hplace' : p' = p.advance ((written ++ [quotes.mark]).length + 1) := by
      have hwidth : (written ++ [quotes.mark]).length + 1 = 1 + (written.length + 1) := by
        rw [List.length_append, List.length_singleton, Nat.add_comm 1]
      rw [hsame hline, hwidth]
      exact p.advance_advance 1 (written.length + 1)
    rw [Scan.token?_quoted quotes hmark hstyle, hread, List.nil_append, ← hplace']

/-- A key that may stand in front of its colon is found there. -/
theorem keyText (n : Nat) (hsimple : isSimpleKey key = true) :
    ∃ first more, (scalarLine (n + 1) key).dropLast = first :: more ∧ KeyText key first more := by
  rw [isSimpleKey, Bool.and_eq_true, Bool.not_eq_true', List.any_eq_false, decide_eq_true_eq]
    at hsimple
  obtain ⟨hbreaks, hbytes⟩ := hsimple
  have hline : ∀ c ∈ key.toList, isLineBreak c = false := fun c hc => by simpa using hbreaks c hc
  rw [scalarLine]
  rcases presentation_cases key with ⟨hstyle, hallowed, hsome⟩ | ⟨hstyle, hquotable⟩ | hstyle |
    ⟨hstyle, -, hfeed⟩
  all_goals rw [hstyle]
  · have hlength : (key.toList.flatMap fun c => [c]).length ≤ 4 * key.utf8ByteSize := by
      refine length_flatMap_le (fun c => ?_) key
      have hpositive : 0 < c.utf8Size := c.utf8Size_pos
      rw [List.length_singleton]
      omega
    obtain ⟨first, more, hchars⟩ := List.exists_cons_of_ne_nil hsome
    rw [List.flatMap_singleton', hchars, List.length_cons] at hlength
    rw [hchars] at hallowed
    refine ⟨first, more, ?_, .plain hchars hstyle hallowed (by omega)⟩
    rw [hchars]
    exact List.dropLast_concat
  · obtain ⟨written, hwritten, hquoted⟩ := hquotable.quotedText (n + 1)
    have hsame : singleQuotedTail (n + 1) false (key.toList ++ []) =
        key.toList.flatMap singleQuotedChar ++ ['\''] := singleQuotedTail_append hline
    rw [List.append_nil] at hsame
    obtain rfl : written = key.toList.flatMap singleQuotedChar :=
      List.append_cancel_right (hwritten.symm.trans hsame)
    have hlength := length_flatMap_le length_singleQuotedChar_le key
    have hdrop : ('\'' :: singleQuotedTail (n + 1) false key.toList ++ ['\n']).dropLast =
        '\'' :: (key.toList.flatMap singleQuotedChar ++ ['\'']) := by
      rw [List.dropLast_concat, hsame]
    refine ⟨_, _, hdrop, .quoted hstyle hquoted (fun c hc => ?_) (by omega)⟩
    obtain ⟨d, hd, hc⟩ := List.mem_flatMap.mp hc
    exact isLineBreak_of_mem_singleQuotedChar (hline d hd) c hc
  · have hquoted := quotedText_double (n + 1) key.toList
    have hlength := length_flatMap_le length_doubleQuotedChar_le key
    have hdrop : (doubleQuoted key.toList ++ ['\n']).dropLast =
        '"' :: (key.toList.flatMap doubleQuotedChar ++ ['"']) := List.dropLast_concat
    refine ⟨_, _, hdrop, .quoted hstyle hquoted (fun c hc => ?_) (by omega)⟩
    obtain ⟨d, -, hc⟩ := List.mem_flatMap.mp hc
    exact isLineBreak_of_mem_doubleQuotedChar c hc
  · exact absurd (hline '\n' hfeed) (by decide)

namespace Scan

variable {s : Scan}

/-- A candidate is kept as long as its colon is in reach. -/
theorem dropStale?_fresh {k : KeyCandidate} (hflow : s.flow = []) (hcandidate : s.candidate = some k)
    (hfresh : isStale s.place k = false) : s.dropStale? = some s := by
  have hsame : { s with candidate := some k, flow := [] } = s := by rw [← hcandidate, ← hflow]
  rw [dropStale?, hflow, hcandidate]
  simp only [Option.any_some, hfresh, Bool.false_and, List.any_nil, Bool.or_self,
    Bool.false_eq_true, if_false, List.map_nil, hsame]

/-- Behind a key its colon is found, and the key is put in front of it. -/
theorem finds_colon {k : KeyCandidate} {token : Token} (hplace : p.rest = ':' :: rest)
    (hrest : endsWord rest = true) (hfresh : isStale p k = false) (hcolumn : k.column < p.column)
    (hposition : k.position = tokens.length)
    (hopened : Opened k.column .blockMappingStart tokens indents tokens' indents')
    (hnext : (inBlock (p.advance 1) (.value :: token :: .key :: tokens') indents' false none).Finds
      result) :
    (inBlock p (token :: tokens) indents false (some k)).Finds result := by
  intro fuel hfuel
  obtain ⟨fuel, rfl⟩ : ∃ m, fuel = m + 1 := ⟨fuel - 1, by omega⟩
  have hspaces : p.rest = spaces 0 ++ ':' :: rest := hplace
  have hskip : (inBlock p (token :: tokens) indents false (some k)).skipToToken (p.rest.length + 1) =
      inBlock (p.advance 0) (token :: tokens) indents false (some k) :=
    skipToToken_spaces hspaces (.cons rfl rfl (by decide))
  have hdrop : (inBlock p (token :: tokens) indents false (some k)).dropStale? =
      some (inBlock p (token :: tokens) indents false (some k)) := dropStale?_fresh rfl rfl hfresh
  have hmark : p.atDocumentMark = false :=
    Place.atDocumentMark_of_column (Nat.lt_of_le_of_lt (Nat.zero_le _) hcolumn)
  have hindents : ∀ m ∈ indents.head?, m ≤ p.column := by
    intro m hm
    exact Nat.le_of_lt (Nat.lt_of_le_of_lt (hopened.le m hm) hcolumn)
  have htoken : (inBlock p (token :: tokens) indents false (some k)).token? ':' rest =
      some (inBlock (p.advance 1) (.value :: token :: .key :: tokens') indents' false none) := by
    rw [token?_value hmark hrest, value?_candidate hposition hopened]
  have hshort : (p.advance 1).rest.length < fuel := by
    rw [Place.advance, hplace]
    rw [hplace] at hfuel
    exact Nat.lt_of_succ_lt_succ hfuel
  rw [run?_eq_tokenRun? hskip hdrop, tokenRun?_of_token hindents hplace htoken]
  exact hnext fuel hshort

/-- A key and its colon are found where a line begins. -/
theorem Ends.of_key {first : Char} {more : List Char} (hkey : KeyText key first more)
    (hrest : endsWord rest = true)
    (hopened : Opened column .blockMappingStart tokens indents tokens' indents')
    (hnext : ∀ place : Place, place.rest = rest → column < place.column →
      (inBlock place (.value :: .scalar (presentation key) key :: .key :: tokens') indents' false
        none).Finds result) :
    Ends (first :: (more ++ ':' :: rest)) column tokens indents result := by
  refine Ends.of_token hopened.le fun place hplace hcolumn => ?_
  have hindents : ∀ m ∈ indents.head?, m ≤ place.column := by
    rw [hcolumn]
    exact hopened.le
  have hcons : place.rest = (first :: more) ++ ':' :: rest := hplace
  have hcolon : (place.advance (more.length + 1)).rest = ':' :: rest := Place.rest_advance_append hcons
  have hbehind : ((place.advance (more.length + 1)).advance 1).rest = rest := by
    rw [Place.advance, hcolon]
    rfl
  have hshort := hkey.short
  have htext : String.ofList key.toList = key := String.ofList_toList
  have htoken := hkey.read tokens hrest hplace hindents
  simp only [scalar?, saveCandidate?, dropCandidate?_idle (Idle.none place.line), if_true,
    Option.map_some, htext] at htoken
  refine ⟨_, htoken, ?_, finds_colon hcolon hrest ?_ ?_ rfl ?_ (hnext _ hbehind ?_)⟩
  · rw [hcolon, List.length_append]
    exact Nat.le_add_left _ _
  · have hreach : ¬ place.offset + 1024 < place.offset + (more.length + 1) := by omega
    simp only [isStale, Place.advance, Nat.lt_irrefl, decide_false, Bool.false_or]
    exact decide_eq_false hreach
  · exact Nat.lt_add_of_pos_right (Nat.succ_pos _)
  · rw [hcolumn]
    exact hopened
  · rw [← hcolumn]
    exact Nat.lt_add_of_pos_right (Nat.succ_pos _)

end Scan

end DesktopTrial.Yaml
