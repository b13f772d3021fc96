import DesktopTrial.Proofs.Yaml.Scanning

/-!
# Marks are found in the text

The marks that give a text its structure: the hyphen of an item, the marks of keys and
values, the tag of a variant and the brackets and braces of empty collections.
-/

namespace DesktopTrial.Yaml

open Text (Stops takeWhile_append_of_stops)

variable {p : Place} {rest : List Char} {tokens tokens' : List Token} {indents indents' : List Nat}
  {candidate : Option KeyCandidate} {keyAllowed : Bool} {column : Nat}

/-- A gap or a line break, or nothing, ends a word. -/
theorem stops_of_endsWord {q : Char → Bool} {rest : List Char} (hrest : endsWord rest = true)
    (hother : ∀ c, separates c = true → q c = false) : Stops q rest := by
  intro c hc
  obtain ⟨more, rfl⟩ := List.head?_eq_some_iff.mp hc
  exact hother c hrest

theorem separates_iff {c : Char} : separates c = true ↔
    c = ' ' ∨ c = '\t' ∨ c = '\n' ∨ c = '\r' ∨ c = '\u0085' ∨ c = '\u2028' ∨ c = '\u2029' := by
  simp only [separates, isGap, isLineBreak, Bool.or_eq_true, beq_iff_eq, or_assoc]

/-! ## Names of tags -/

theorem isWordChar_of_separates {c : Char} (hc : separates c = true) : isWordChar c = false := by
  rcases separates_iff.mp hc with rfl | rfl | rfl | rfl | rfl | rfl | rfl <;> rfl

theorem isTagChar_of_separates {c : Char} (hc : separates c = true) : isTagChar false c = false := by
  rcases separates_iff.mp hc with rfl | rfl | rfl | rfl | rfl | rfl | rfl <;> decide

theorem readHandle?_name {name : List Char} (hname : ∀ c ∈ name, isWordChar c = true)
    (hplace : p.rest = '!' :: (name ++ rest)) (hrest : endsWord rest = true) :
    readHandle? p = some ('!' :: name, p.advance (name.length + 1)) := by
  have hword : (name ++ rest).takeWhile isWordChar = name :=
    takeWhile_append_of_stops hname (stops_of_endsWord hrest fun _ => isWordChar_of_separates)
  have hafter : (p.advance (name.length + 1)).rest = rest := by
    have hcons : p.rest = ('!' :: name) ++ rest := hplace
    exact Place.rest_advance_append hcons
  have hclosed : (rest.head? == some '!') = false := by
    rw [beq_eq_false_iff_ne]
    intro hhead
    cases stops_of_endsWord (q := (· == '!')) hrest (fun c hc => by
      rcases separates_iff.mp hc with rfl | rfl | rfl | rfl | rfl | rfl | rfl <;> rfl) '!' hhead
  rw [readHandle?, hplace]
  simp only [hword, hafter, hclosed, Bool.false_eq_true, if_false]

theorem readTagText?_nothing (hplace : p.rest = rest) (hrest : endsWord rest = true) :
    readTagText? false p = some ([], p) := by
  have hread : readTagChars? false rest.length rest = some ([], rest) := by
    cases rest with
    | nil => rfl
    | cons c more =>
        have hother := isTagChar_of_separates hrest
        rw [List.length_cons, readTagChars?]
        simp only [hother, Bool.not_false, if_true]
  rw [readTagText?, hplace, hread, Option.map_some, Nat.sub_self]
  rfl

/-- A local tag with a name of word characters. -/
theorem readTag?_name {name : List Char} (hsome : name ≠ [])
    (hname : ∀ c ∈ name, isWordChar c = true) (hplace : p.rest = '!' :: (name ++ rest))
    (hrest : endsWord rest = true) :
    readTag? false p = some (.tag "!" (String.ofList name), p.advance (name.length + 1)) := by
  have hafter : (p.advance (name.length + 1)).rest = rest := by
    have hcons : p.rest = ('!' :: name) ++ rest := hplace
    exact Place.rest_advance_append hcons
  have hlast : (('!' :: name).getLast? == some '!') = false := by
    rw [beq_eq_false_iff_ne, List.getLast?_cons, List.getLast?_eq_some_getLast hsome,
      Option.getD_some]
    intro hmark
    have hword := hname _ (List.getLast_mem hsome)
    rw [Option.some.inj hmark] at hword
    cases hword
  have hbracket : ∀ more, p.rest ≠ '!' :: '<' :: more := by
    intro more hmore
    obtain ⟨c, name, rfl⟩ := List.exists_cons_of_ne_nil hsome
    rw [hplace] at hmore
    obtain rfl : c = '<' := by
      injection hmore with _ hmore
      injection hmore
    cases hname '<' List.mem_cons_self
  have hempty : (List.drop 1 ('!' :: name) ++ []).isEmpty = false := by
    rw [List.append_nil, List.isEmpty_eq_false_iff]
    exact hsome
  rw [readTag?, readHandle?_name hname hplace hrest]
  simp only [readTagText?_nothing hafter hrest, hlast, Bool.and_false, Bool.false_eq_true,
    if_false, hempty, hafter, hrest, Bool.true_or, if_true]
  simp only [List.drop_succ_cons, List.drop_zero, List.append_nil]

namespace Scan

/-! ## Blocks -/

/-- A block stands at its column: it is open already, or its mark opens it. -/
inductive Opened (column : Nat) (mark : Token) :
    List Token → List Nat → List Token → List Nat → Prop
  | already (before : List Token) (outer : List Nat) :
      Opened column mark before (column :: outer) before (column :: outer)
  | newly {before : List Token} {outer : List Nat} : (∀ m ∈ outer.head?, m < column) →
      Opened column mark before outer (mark :: before) (column :: outer)

theorem not_atDocumentMark {c : Char} (hplace : p.rest = c :: rest) (hrest : endsWord rest = true) :
    p.atDocumentMark = false := by
  rw [Place.atDocumentMark, hplace]
  split
  · rename_i more heq
    cases heq
    cases hrest
  · rename_i more heq
    cases heq
    cases hrest
  · exact Bool.and_false _

theorem Opened.le {mark : Token} (hopened : Opened column mark tokens indents tokens' indents') :
    ∀ m ∈ indents.head?, m ≤ column := by
  intro m hm
  cases hopened with
  | already =>
      cases hm
      exact Nat.le_refl _
  | newly hless => exact Nat.le_of_lt (hless m hm)

theorem insertAt_append (before : List Token) (mark : Token) :
    (inBlock p (before ++ tokens) indents keyAllowed candidate).insertAt tokens.length mark =
      inBlock p (before ++ mark :: tokens) indents keyAllowed candidate := by
  have hindex : (before ++ tokens).length - tokens.length = before.length := by
    rw [List.length_append, Nat.add_sub_cancel]
  have hinsert : (before ++ tokens).insertIdx before.length mark = before ++ mark :: tokens := by
    induction before with
    | nil => rfl
    | cons token before ih =>
        rw [List.cons_append, List.length_cons, List.insertIdx_succ_cons, ih ?_, List.cons_append]
        rw [List.length_append, Nat.add_sub_cancel]
  rw [insertAt, hindex, hinsert]

theorem openBlock_of_opened {mark : Token} (before : List Token)
    (hopened : Opened column mark tokens indents tokens' indents') :
    (inBlock p (before ++ tokens) indents keyAllowed candidate).openBlock column tokens.length mark =
      inBlock p (before ++ tokens') indents' keyAllowed candidate := by
  cases hopened with
  | already => simp [openBlock, inFlow, indent]
  | newly hless =>
      have hdeeper : ¬ Int.ofNat column ≤
          (inBlock p (before ++ tokens) indents keyAllowed candidate).indent := by
        rw [indent]
        cases hindents : indents with
        | nil => simp only [List.head?_nil, Option.map_none, Option.getD_none, Int.ofNat_eq_natCast]; omega
        | cons m indents => simpa using hless m (by rw [hindents]; rfl)
      simp only [openBlock, inFlow, List.isEmpty_nil, Bool.not_true, Bool.false_or, decide_eq_true_eq]
      rw [if_neg hdeeper, insertAt_append]

/-- A hyphen begins an item. -/
theorem token?_entry (hplace : p.rest = '-' :: rest) (hrest : endsWord rest = true)
    (hopened : Opened p.column .blockSequenceStart tokens indents tokens' indents') :
    (inBlock p tokens indents true none).token? '-' rest =
      some (inBlock (p.advance 1) (.blockEntry :: tokens') indents' true none) := by
  have hmark := not_atDocumentMark hplace hrest
  have hopen : (inBlock p tokens indents true none).openBlock p.column tokens.length
      .blockSequenceStart = inBlock p tokens' indents' true none := openBlock_of_opened [] hopened
  have hentry : (inBlock p tokens indents true none).token? '-' rest =
      blockEntry? (inBlock p tokens indents true none) := by
    rw [token?]
    simp [hmark, hrest]
  rw [hentry, blockEntry?, hopen]
  rfl

/-- A question mark begins a key on a line of its own. -/
theorem token?_key (hplace : p.rest = '?' :: rest) (hrest : endsWord rest = true)
    (hopened : Opened p.column .blockMappingStart tokens indents tokens' indents') :
    (inBlock p tokens indents true none).token? '?' rest =
      some (inBlock (p.advance 1) (.key :: tokens') indents' true none) := by
  have hmark := not_atDocumentMark hplace hrest
  have hopen : (inBlock p tokens indents true none).openBlock p.column tokens.length
      .blockMappingStart = inBlock p tokens' indents' true none := openBlock_of_opened [] hopened
  have hkey : (inBlock p tokens indents true none).token? '?' rest =
      (inBlock p tokens indents true none).key? := by
    rw [token?]
    simp [hmark, hrest]
  rw [hkey, key?, hopen]
  rfl

theorem token?_value (hmark : p.atDocumentMark = false) (hrest : endsWord rest = true) :
    (inBlock p tokens indents keyAllowed candidate).token? ':' rest =
      (inBlock p tokens indents keyAllowed candidate).value? := by
  rw [token?]
  simp [hmark, hrest]

/-- A colon on a line of its own begins the value of the key before it. -/
theorem value?_alone (outer : List Nat) :
    (inBlock p tokens (p.column :: outer) true none).value? =
      some (inBlock (p.advance 1) (.value :: tokens) (p.column :: outer) true none) := by
  have hopen : (inBlock p tokens (p.column :: outer) true none).openBlock p.column tokens.length
      .blockMappingStart = inBlock p tokens (p.column :: outer) true none :=
    openBlock_of_opened [] (.already tokens outer)
  rw [value?]
  simp only [currentCandidate, hopen]
  rfl

/-- A colon makes the scalar before it a key. -/
theorem value?_candidate {candidate : KeyCandidate} {token : Token}
    (hposition : candidate.position = tokens.length)
    (hopened : Opened candidate.column .blockMappingStart tokens indents tokens' indents') :
    (inBlock p (token :: tokens) indents keyAllowed (some candidate)).value? =
      some (inBlock (p.advance 1) (.value :: token :: .key :: tokens') indents' false none) := by
  have hinsert : (inBlock p (token :: tokens) indents keyAllowed (some candidate)).insertAt
      tokens.length .key = inBlock p (token :: .key :: tokens) indents keyAllowed (some candidate) :=
    insertAt_append [token] .key
  have hopen : (inBlock p (token :: .key :: tokens) indents keyAllowed (some candidate)).openBlock
      candidate.column tokens.length .blockMappingStart =
        inBlock p (token :: .key :: tokens') indents' keyAllowed (some candidate) :=
    openBlock_of_opened [token, .key] hopened
  rw [value?]
  simp only [currentCandidate, hposition, hinsert, hopen]
  rfl

/-! ## Candidates -/

theorem dropCandidate?_idle (hidle : Idle candidate p.line) :
    (inBlock p tokens indents keyAllowed candidate).dropCandidate? =
      some (inBlock p tokens indents keyAllowed none) := by
  have hnone : (candidate.any (·.required)) = false := by
    cases hcandidate : candidate with
    | none => rfl
    | some c => exact (hidle c hcandidate).1
  rw [dropCandidate?]
  simp only [currentCandidate, hnone, Bool.false_eq_true, if_false]
  rfl

/-- A token right of its block is not a required key. -/
theorem saveCandidate?_idle (hidle : Idle candidate p.line)
    (hindents : ∀ m ∈ indents.head?, m < p.column) (hsome : indents ≠ []) :
    ∃ candidate', (inBlock p tokens indents keyAllowed candidate).saveCandidate? =
      some (inBlock p tokens indents keyAllowed candidate') ∧ Idle candidate' p.line := by
  rw [saveCandidate?]
  cases keyAllowed with
  | false => exact ⟨candidate, rfl, hidle⟩
  | true =>
      obtain ⟨m, outer, rfl⟩ := List.exists_cons_of_ne_nil hsome
      have hother : ((inBlock p tokens (m :: outer) true none).indent == (p.column : Int)) = false := by
        rw [beq_eq_false_iff_ne]
        have hless := hindents m rfl
        simp only [indent, List.head?_cons, Option.map_some, Option.getD_some, Int.ofNat_eq_natCast]
        omega
      simp only [if_true, dropCandidate?_idle hidle, Option.map_some]
      refine ⟨_, rfl, ?_⟩
      intro c hc
      cases hc
      refine ⟨?_, Nat.le_refl _⟩
      simp only [hother, Bool.and_false]

/-! ## Tagged content -/

/-- A tag stands between its key or mark and its content. -/
theorem finds_tag {name : List Char} {result : List Token} (hsome : name ≠ [])
    (hname : ∀ c ∈ name, isWordChar c = true) (hplace : p.rest = ' ' :: '!' :: (name ++ rest))
    (hrest : endsWord rest = true) (hidle : Idle candidate p.line)
    (hindents : ∀ m ∈ indents.head?, m ≤ p.column) (hnested : indents ≠ [])
    (hnext : ∀ candidate', Idle candidate' p.line →
      (inBlock (p.advance (name.length + 2)) (.tag "!" (String.ofList name) :: tokens) indents false
        candidate').Finds result) :
    (inBlock p tokens indents keyAllowed candidate).Finds result := by
  have hspace : p.rest = spaces 1 ++ '!' :: (name ++ rest) := hplace
  have hafter := Place.rest_advance_spaces hspace
  have hopens : Opens ('!' :: (name ++ rest)) := by
    intro c hc
    cases hc
    decide
  refine finds_of_token hspace hopens hidle (fun m hm => Nat.le_succ_of_le (hindents m hm)) ?_
  intro candidate' hidle' _
  have hmark : (p.advance 1).atDocumentMark = false :=
    Place.atDocumentMark_of_column (Nat.succ_pos _)
  have hcolumn : ∀ m ∈ indents.head?, m < (p.advance 1).column := fun m hm =>
    Nat.lt_succ_of_le (hindents m hm)
  obtain ⟨candidate'', hsave, hidle''⟩ :
      ∃ candidate'', (inBlock (p.advance 1) tokens indents keyAllowed candidate').saveCandidate? =
        some (inBlock (p.advance 1) tokens indents keyAllowed candidate'') ∧
          Idle candidate'' (p.advance 1).line := saveCandidate?_idle hidle' hcolumn hnested
  refine ⟨_, ?_, ?_, hnext candidate'' hidle''⟩
  · have htoken : (inBlock (p.advance 1) tokens indents keyAllowed candidate').token? '!'
        (name ++ rest) = named? (readTag? false (p.advance 1))
          (inBlock (p.advance 1) tokens indents keyAllowed candidate') := by
      rw [token?]
      simp [hmark, inFlow]
    have hbehind : (p.advance 1).advance (name.length + 1) = p.advance (name.length + 2) := by
      rw [Place.advance_advance, Nat.add_comm 1]
    rw [htoken]
    simp only [named?, hsave, readTag?_name hsome hname hafter hrest, hbehind]
    rfl
  · have hlength : (p.advance (name.length + 2)).rest = rest := by
      have hcons : p.rest = (' ' :: '!' :: name) ++ rest := hplace
      exact Place.rest_advance_append hcons
    rw [hlength, List.length_append]
    exact Nat.le_add_left _ _

/-! ## Empty collections -/

inductive Brackets : Char → Char → Token → Token → Prop
  | square : Brackets '[' ']' .flowSequenceStart .flowSequenceEnd
  | curly : Brackets '\x7b' '\x7d' .flowMappingStart .flowMappingEnd

variable {left right : Char} {start stop : Token} {result : List Token}

theorem Brackets.opens (hbrackets : Brackets left right start stop) :
    Opens (left :: rest) ∧ Opens (right :: rest) := by
  constructor <;>
  · intro c hc
    cases hc
    cases hbrackets <;> decide

theorem Brackets.token?_left (hbrackets : Brackets left right start stop)
    (hmark : p.atDocumentMark = false) :
    (inBlock p tokens indents keyAllowed candidate).token? left rest =
      (inBlock p tokens indents keyAllowed candidate).openFlow? start := by
  cases hbrackets <;>
  · rw [token?]
    simp [hmark]

theorem Brackets.token?_right {s : Scan} (hbrackets : Brackets left right start stop)
    (hmark : s.place.atDocumentMark = false) : s.token? right rest = s.closeFlow? stop := by
  cases hbrackets <;>
  · rw [token?]
    simp [hmark]

/-- Behind the opening bracket nothing but the closing one comes. -/
theorem Brackets.finds_right (hbrackets : Brackets left right start stop)
    (hplace : p.rest = right :: rest) (hcolumn : 0 < p.column) (hidle : Idle candidate p.line)
    (hnext : ∀ candidate', Idle candidate' p.line →
      (inBlock (p.advance 1) (stop :: tokens) indents false candidate').Finds result) :
    Finds ⟨p, tokens, indents, true, candidate, [none]⟩ result := by
  intro fuel hfuel
  obtain ⟨fuel, rfl⟩ : ∃ m, fuel = m + 1 := ⟨fuel - 1, by omega⟩
  have hspaces : p.rest = spaces 0 ++ right :: rest := hplace
  have hskip : skipToToken (p.rest.length + 1) ⟨p, tokens, indents, true, candidate, [none]⟩ =
      ⟨p.advance 0, tokens, indents, true, candidate, [none]⟩ :=
    skipToToken_spaces hspaces hbrackets.opens.2
  have hdrop : ∃ candidate', dropStale? ⟨p, tokens, indents, true, candidate, [none]⟩ =
      some ⟨p, tokens, indents, true, candidate', [none]⟩ ∧ Idle candidate' p.line ∧
        (candidate = none → candidate' = none) := dropStale?_idle 1 rfl hidle
  obtain ⟨candidate', hdrop, hidle', -⟩ := hdrop
  have hmark : p.atDocumentMark = false := Place.atDocumentMark_of_column hcolumn
  have htoken : token? right rest ⟨p, tokens, indents, true, candidate', [none]⟩ =
      some (inBlock (p.advance 1) (stop :: tokens) indents false candidate') :=
    hbrackets.token?_right hmark
  have hrest : (p.advance 1).rest = rest := by
    rw [Place.advance, hplace]
    rfl
  have hshort : rest.length < fuel := by
    rw [hplace, List.length_cons] at hfuel
    exact Nat.lt_of_succ_lt_succ hfuel
  have hclose : closeBlocks p.column ⟨p, tokens, indents, true, candidate', [none]⟩ =
      ⟨p, tokens, indents, true, candidate', [none]⟩ := rfl
  rw [run?_eq_tokenRun? hskip hdrop, tokenRun?]
  simp only [hclose, hplace, htoken]
  exact hnext candidate' hidle' fuel (by rw [hrest]; exact hshort)

/-- An empty collection ends its line. -/
theorem Brackets.finds_line (hbrackets : Brackets left right start stop) {tail : List Char}
    (hplace : p.rest = ' ' :: left :: right :: '\n' :: tail) (hidle : Idle candidate p.line)
    (hindents : ∀ m ∈ indents.head?, m ≤ p.column) (hnested : indents ≠ [])
    (htail : Continues column tail (stop :: start :: tokens) indents result) :
    (inBlock p tokens indents keyAllowed candidate).Finds result := by
  have hspace : p.rest = spaces 1 ++ left :: right :: '\n' :: tail := hplace
  have hafter := Place.rest_advance_spaces hspace
  have hopens : Opens (left :: right :: '\n' :: tail) := hbrackets.opens.1
  refine finds_of_token hspace hopens hidle (fun m hm => Nat.le_succ_of_le (hindents m hm)) ?_
  intro candidate₁ hidle₁ _
  have hmark : (p.advance 1).atDocumentMark = false :=
    Place.atDocumentMark_of_column (Nat.succ_pos _)
  have hcolumn : ∀ m ∈ indents.head?, m < (p.advance 1).column := fun m hm =>
    Nat.lt_succ_of_le (hindents m hm)
  obtain ⟨candidate₂, hsave, hidle₂⟩ :
      ∃ candidate₂, (inBlock (p.advance 1) tokens indents keyAllowed candidate₁).saveCandidate? =
        some (inBlock (p.advance 1) tokens indents keyAllowed candidate₂) ∧
          Idle candidate₂ (p.advance 1).line := saveCandidate?_idle hidle₁ hcolumn hnested
  have hinside : ((p.advance 1).advance 1).rest = right :: '\n' :: tail := by
    rw [Place.advance, hafter]
    rfl
  have hbehind : (((p.advance 1).advance 1).advance 1).rest = '\n' :: tail := by
    rw [Place.advance, hinside]
    rfl
  refine ⟨⟨(p.advance 1).advance 1, start :: tokens, indents, true, candidate₂, [none]⟩, ?_, ?_,
    hbrackets.finds_right hinside (Nat.succ_pos _) hidle₂ ?_⟩
  · rw [hbrackets.token?_left hmark, openFlow?, hsave]
    rfl
  · rewrite [hinside]
    exact Nat.le_refl _
  · intro candidate₃ hidle₃
    exact htail.finds hbehind hidle₃

end Scan

end DesktopTrial.Yaml
