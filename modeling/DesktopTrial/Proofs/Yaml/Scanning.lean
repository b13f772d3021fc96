import DesktopTrial.Proofs.Yaml.Plain
import DesktopTrial.Yaml.Token.Scanner

/-!
# Scanning goes on token by token

The scan of a text skips to a token, closes the blocks that are indented further and takes
the token.  What the scan finds in the end is carried from the text behind a token to the
text in front of it.
-/

namespace DesktopTrial.Yaml

open Text (Stops)

/-- No key has to come here, and none can come from a later line. -/
def Idle (candidate : Option KeyCandidate) (line : Nat) : Prop :=
  ∀ c ∈ candidate, c.required = false ∧ c.line ≤ line

theorem Idle.none (line : Nat) : Idle Option.none line := by
  intro c hc
  cases hc

namespace Scan

variable {s : Scan} {p : Place} {rest text : List Char} {tokens : List Token} {indents : List Nat}
  {keyAllowed : Bool} {candidate : Option KeyCandidate} {result : List Token} {column n fuel : Nat}

abbrev inBlock (place : Place) (tokens : List Token) (indents : List Nat) (keyAllowed : Bool)
    (candidate : Option KeyCandidate) : Scan :=
  ⟨place, tokens, indents, keyAllowed, candidate, []⟩

/-! ## On the way to a token -/

theorem skipToToken_spaces (hplace : s.place.rest = spaces n ++ rest) (hopens : Opens rest) :
    s.skipToToken (fuel + 1) = { s with place := s.place.advance n } := by
  have hskip : s.place.skipWhile (fun c => c == ' ' || ((s.inFlow || !s.keyAllowed) && c == '\t')) =
      s.place.advance n := by
    rw [Place.skipWhile_append hplace, length_spaces]
    · intro c hc
      rw [List.eq_of_mem_replicate hc]
      rfl
    · intro c hc
      obtain ⟨hgap, -⟩ := hopens c hc
      rw [isGap, Bool.or_eq_false_iff] at hgap
      simp only [hgap.1, hgap.2, Bool.and_false, Bool.or_self]
  rw [skipToToken]
  simp only [hskip, Place.rest_advance_spaces hplace]
  cases rest with
  | nil =>
      simp only [List.head?_nil, Option.none_beq_some, Bool.false_eq_true, if_false,
        Place.rest_advance_spaces hplace]
  | cons c rest =>
      obtain ⟨-, hbreak, hcomment⟩ := hopens c rfl
      have hother : (some c == some '#') = false := beq_eq_false_iff_ne.mpr (by simpa using hcomment)
      simp only [List.head?_cons, hother, Bool.false_eq_true, if_false,
        Place.rest_advance_spaces hplace, hbreak]

theorem skipToToken_line (hplace : s.place.rest = '\n' :: (spaces n ++ rest)) (hopens : Opens rest)
    (hflow : s.flow = []) :
    s.skipToToken (fuel + 2) = { s with place := s.place.nextLine.advance n, keyAllowed := true } := by
  have hskip : s.place.skipWhile (fun c => c == ' ' || ((s.inFlow || !s.keyAllowed) && c == '\t')) =
      s.place := by
    have hnone : s.place.rest.takeWhile
        (fun c => c == ' ' || ((s.inFlow || !s.keyAllowed) && c == '\t')) = [] := by
      rw [hplace, List.takeWhile_cons_of_neg (by simp)]
    rw [Place.skipWhile, hnone]
    rfl
  have hnext := Place.nextLine_of_isFeed (rfl : isFeed '\n' = true) hplace
  have hallowed : (s.keyAllowed || !s.inFlow) = true := by
    rw [inFlow, hflow]
    exact Bool.or_true _
  have hother : (s.place.rest.head? == some '#') = false := by rw [hplace]; rfl
  rw [skipToToken]
  simp only [hskip, hother, Bool.false_eq_true, if_false, hallowed]
  rw [hplace]
  have hbreak : isLineBreak '\n' = true := rfl
  simp only [hbreak, if_true]
  have hspaces : s.place.nextLine.rest = spaces n ++ rest := by rw [hnext]
  exact skipToToken_spaces hspaces hopens

theorem dropStale?_later (hflow : s.flow = [])
    (hlater : ∀ c ∈ s.candidate, c.required = false ∧ c.line < s.place.line) :
    s.dropStale? = some { s with candidate := none } := by
  rw [dropStale?, hflow]
  cases hcandidate : s.candidate with
  | none => rfl
  | some c =>
      obtain ⟨hrequired, hline⟩ := hlater c hcandidate
      have hstale : isStale s.place c = true := by
        rw [isStale, decide_eq_true hline, Bool.true_or]
      simp [hstale, hrequired]

/-- What is left of a candidate is idle as well. -/
theorem dropStale?_idle (depth : Nat) (hflow : s.flow = List.replicate depth none)
    (hidle : Idle s.candidate s.place.line) :
    ∃ candidate, s.dropStale? = some { s with candidate } ∧ Idle candidate s.place.line ∧
      (s.candidate = none → candidate = none) := by
  rw [dropStale?, hflow]
  cases hcandidate : s.candidate with
  | none => exact ⟨none, by simp, Idle.none _, fun _ => rfl⟩
  | some c =>
      obtain ⟨hrequired, hline⟩ := hidle c hcandidate
      cases hstale : isStale s.place c with
      | true => exact ⟨none, by simp [hstale, hrequired], Idle.none _, nofun⟩
      | false =>
          refine ⟨some c, by simp [hstale], ?_, nofun⟩
          rw [← hcandidate]
          exact hidle

theorem closeBlocks_here {column : Int} (hindents : ∀ m ∈ s.indents.head?, Int.ofNat m ≤ column) :
    s.closeBlocks column = s := by
  rw [closeBlocks]
  split
  · rfl
  · have hnone : (s.indents.takeWhile fun indent => decide (column < Int.ofNat indent)) = [] := by
      cases hcases : s.indents with
      | nil => rfl
      | cons m indents =>
          have hle := hindents m (by rw [hcases]; rfl)
          rw [List.takeWhile_cons_of_neg]
          simpa using hle
    rw [hnone]
    rfl

/-- A block that is indented further is closed before the others. -/
theorem closeBlocks_cons {column : Int} {m : Nat} (hless : column < m) :
    (inBlock p tokens (m :: indents) keyAllowed candidate).closeBlocks column =
      (inBlock p (.blockEnd :: tokens) indents keyAllowed candidate).closeBlocks column := by
  have hclosed : decide (column < Int.ofNat m) = true := decide_eq_true hless
  have hinFlow (tokens : List Token) (indents : List Nat) :
      (inBlock p tokens indents keyAllowed candidate).inFlow = false := rfl
  rw [closeBlocks, closeBlocks, hinFlow, hinFlow]
  simp only [Bool.false_eq_true, if_false, List.takeWhile_cons, hclosed, if_true, List.length_cons,
    List.replicate_succ', List.append_assoc, List.singleton_append, List.drop_succ_cons]

/-! ## Runs -/

/-- Goes on with the token at the place. -/
def tokenRun? (fuel : Nat) (s : Scan) : Option (List Token) :=
  let s := s.closeBlocks s.place.column
  match s.place.rest with
  | [] => s.leaveBlocks?.map fun s => s.tokens.reverse
  | c :: rest =>
      match s.token? c rest with
      | none => none
      | some s => s.run? fuel

theorem run?_eq_tokenRun? {s₁ s₂ : Scan} (hskip : s.skipToToken (s.place.rest.length + 1) = s₁)
    (hdrop : s₁.dropStale? = some s₂) : s.run? (fuel + 1) = s₂.tokenRun? fuel := by
  rw [run?, hskip, hdrop]
  rfl

theorem tokenRun?_of_token {c : Char} {s' : Scan}
    (hindents : ∀ m ∈ s.indents.head?, m ≤ s.place.column) (hplace : s.place.rest = c :: rest)
    (htoken : s.token? c rest = some s') : s.tokenRun? fuel = s'.run? fuel := by
  have hhere : s.closeBlocks s.place.column = s :=
    closeBlocks_here fun m hm => Int.ofNat_le.mpr (hindents m hm)
  rw [tokenRun?]
  simp only [hhere, hplace, htoken]

def Finds (s : Scan) (result : List Token) : Prop :=
  ∀ fuel, s.place.rest.length < fuel → s.run? fuel = some result

/-- In front of this text the scan finds these tokens in the end. -/
def Ends (text : List Char) (column : Nat) (tokens : List Token) (indents : List Nat)
    (result : List Token) : Prop :=
  ∀ (place : Place) (fuel : Nat), place.rest = text → place.column = column → text.length ≤ fuel →
    (inBlock place tokens indents true none).tokenRun? fuel = some result

/-- The text goes on with a line that is not indented further than a column, and the scan
finds these tokens in the end. -/
def Continues (column : Nat) (tail : List Char) (tokens : List Token) (indents : List Nat)
    (result : List Token) : Prop :=
  ∃ n text, tail = spaces n ++ text ∧ Opens text ∧ n ≤ column ∧ Ends text n tokens indents result

/-- Blocks that are indented further are closed first. -/
theorem Ends.close {m : Nat} (hends : Ends text column (.blockEnd :: tokens) indents result)
    (hless : column < m) : Ends text column tokens (m :: indents) result := by
  intro place fuel hplace hcolumn hfuel
  have hclose : (inBlock place tokens (m :: indents) true none).closeBlocks column = _ :=
    closeBlocks_cons (Int.ofNat_lt.mpr hless)
  have hread := hends place fuel hplace hcolumn hfuel
  rw [tokenRun?] at hread ⊢
  simp only [hcolumn] at hread ⊢
  rw [hclose]
  exact hread

theorem Continues.close {m : Nat} {tail : List Char}
    (hcontinues : Continues column tail (.blockEnd :: tokens) indents result) (hless : column < m) :
    Continues column tail tokens (m :: indents) result := by
  obtain ⟨n, text, htail, hopens, hn, hends⟩ := hcontinues
  exact ⟨n, text, htail, hopens, hn, hends.close (Nat.lt_of_le_of_lt hn hless)⟩

theorem Continues.mono {wider : Nat} {tail : List Char}
    (hcontinues : Continues column tail tokens indents result) (hle : column ≤ wider) :
    Continues wider tail tokens indents result := by
  obtain ⟨n, text, htail, hopens, hn, hends⟩ := hcontinues
  exact ⟨n, text, htail, hopens, Nat.le_trans hn hle, hends⟩

/-- At the end of the text the last block is closed. -/
theorem Ends.last : Ends [] 0 tokens [0] (tokens.reverse ++ [.blockEnd]) := by
  intro place fuel hplace hcolumn hfuel
  have hhere : (inBlock place tokens [0] true none).closeBlocks place.column =
      inBlock place tokens [0] true none := by
    apply closeBlocks_here
    intro m hm
    cases hm
    exact Int.natCast_nonneg _
  rw [tokenRun?]
  simp only [hhere, hplace]
  rw [← List.reverse_cons]
  rfl

/-- A token is taken where a line begins. -/
theorem Ends.of_token {c : Char} (hindents : ∀ m ∈ indents.head?, m ≤ column)
    (htoken : ∀ place : Place, place.rest = c :: rest → place.column = column →
      ∃ s', (inBlock place tokens indents true none).token? c rest = some s' ∧
        s'.place.rest.length ≤ rest.length ∧ s'.Finds result) :
    Ends (c :: rest) column tokens indents result := by
  intro place fuel hplace hcolumn hfuel
  obtain ⟨s', htoken, hlength, hfinds⟩ := htoken place hplace hcolumn
  have hrun : (inBlock place tokens indents true none).tokenRun? fuel = s'.run? fuel :=
    tokenRun?_of_token (by rw [hcolumn]; exact hindents) hplace htoken
  rw [hrun]
  exact hfinds fuel (Nat.lt_of_le_of_lt hlength hfuel)

/-- A token is taken behind some spaces. -/
theorem finds_of_token {c : Char} (hplace : p.rest = spaces n ++ c :: rest)
    (hopens : Opens (c :: rest)) (hidle : Idle candidate p.line)
    (hindents : ∀ m ∈ indents.head?, m ≤ p.column + n)
    (htoken : ∀ candidate', Idle candidate' p.line → (candidate = none → candidate' = none) →
      ∃ s', (inBlock (p.advance n) tokens indents keyAllowed candidate').token? c rest = some s' ∧
        s'.place.rest.length ≤ rest.length ∧ s'.Finds result) :
    (inBlock p tokens indents keyAllowed candidate).Finds result := by
  intro fuel hfuel
  obtain ⟨fuel, rfl⟩ : ∃ m, fuel = m + 1 := ⟨fuel - 1, by omega⟩
  have hskip : (inBlock p tokens indents keyAllowed candidate).skipToToken (p.rest.length + 1) =
      inBlock (p.advance n) tokens indents keyAllowed candidate := skipToToken_spaces hplace hopens
  have hdrop : ∃ candidate', (inBlock (p.advance n) tokens indents keyAllowed candidate).dropStale? =
      some (inBlock (p.advance n) tokens indents keyAllowed candidate') ∧ Idle candidate' p.line ∧
        (candidate = none → candidate' = none) := dropStale?_idle 0 rfl hidle
  obtain ⟨candidate', hdrop, hidle', hnone⟩ := hdrop
  obtain ⟨s', htoken, hlength, hfinds⟩ := htoken candidate' hidle' hnone
  have hrun : (inBlock (p.advance n) tokens indents keyAllowed candidate').tokenRun? fuel =
      s'.run? fuel := tokenRun?_of_token hindents (Place.rest_advance_spaces hplace) htoken
  have hshort : rest.length < fuel := by
    rw [hplace, List.length_append, List.length_cons] at hfuel
    omega
  rw [run?_eq_tokenRun? hskip hdrop, hrun]
  exact hfinds fuel (Nat.lt_of_le_of_lt hlength hshort)

/-- The scan goes on where a line begins. -/
theorem Ends.finds (hends : Ends text column tokens indents result) (hopens : Opens text)
    (hplace : p.rest = text) (hcolumn : p.column = column)
    (hlater : ∀ c ∈ candidate, c.required = false ∧ c.line < p.line) :
    (inBlock p tokens indents true candidate).Finds result := by
  intro fuel hfuel
  obtain ⟨fuel, rfl⟩ : ∃ m, fuel = m + 1 := ⟨fuel - 1, by omega⟩
  have hspaces : p.rest = spaces 0 ++ text := hplace
  have hskip : (inBlock p tokens indents true candidate).skipToToken (p.rest.length + 1) =
      inBlock (p.advance 0) tokens indents true candidate := skipToToken_spaces hspaces hopens
  have hdrop : (inBlock p tokens indents true candidate).dropStale? =
      some (inBlock p tokens indents true none) := dropStale?_later rfl hlater
  rw [run?_eq_tokenRun? hskip hdrop]
  exact hends p fuel hplace hcolumn (by rw [← hplace]; exact Nat.le_of_lt_succ hfuel)

/-- The scan goes on with the next line. -/
theorem Continues.finds {tail : List Char} (hcontinues : Continues column tail tokens indents result)
    (hplace : p.rest = '\n' :: tail) (hidle : Idle candidate p.line) :
    (inBlock p tokens indents keyAllowed candidate).Finds result := by
  intro fuel hfuel
  obtain ⟨fuel, rfl⟩ : ∃ m, fuel = m + 1 := ⟨fuel - 1, by omega⟩
  obtain ⟨n, text, rfl, hopens, -, hends⟩ := hcontinues
  have hnext := Place.nextLine_of_isFeed (rfl : isFeed '\n' = true) hplace
  have hspaces : p.nextLine.rest = spaces n ++ text := by rw [hnext]
  have hlength : p.rest.length + 1 = (spaces n ++ text).length + 2 := by rw [hplace]; rfl
  have hskip : (inBlock p tokens indents keyAllowed candidate).skipToToken (p.rest.length + 1) =
      inBlock (p.nextLine.advance n) tokens indents true candidate := by
    rw [hlength]
    exact skipToToken_line hplace hopens rfl
  have hlater : ∀ c ∈ candidate, c.required = false ∧ c.line < (p.nextLine.advance n).line := by
    intro c hc
    obtain ⟨hrequired, hline⟩ := hidle c hc
    rw [hnext]
    exact ⟨hrequired, Nat.lt_succ_of_le hline⟩
  have hdrop : (inBlock (p.nextLine.advance n) tokens indents true candidate).dropStale? =
      some (inBlock (p.nextLine.advance n) tokens indents true none) := dropStale?_later rfl hlater
  have hcolumn : (p.nextLine.advance n).column = n := by
    rw [hnext]
    exact Nat.zero_add n
  have hshort : text.length ≤ fuel := by
    rw [hplace, List.length_cons, List.length_append] at hfuel
    omega
  rw [run?_eq_tokenRun? hskip hdrop]
  exact hends _ fuel (Place.rest_advance_spaces hspaces) hcolumn hshort

end Scan

end DesktopTrial.Yaml
