import DesktopTrial.Text.Lowercase
import DesktopTrial.Text.Search

/-!
# Lower case of a part and of the whole

A text that stands inside another one is not always folded as it is by itself: a capital sigma
is final or not by what stands before and after it.  Only a sigma at an edge of the part can
tell the difference, where nothing but characters that the rules of case look past keeps it
from the text outside.  So a word is found, in lower case, wherever it literally stands exactly
when it has no such sigma.
-/

namespace DesktopTrial.Text

variable {before word rest after : List Char} {c : Char}

/-! ## Occurrences -/

theorem occursIn_iff_infix {word text : List Char} :
    occursIn word text = true ↔ word <:+: text := by
  induction text with
  | nil => simp [occursIn]
  | cons c rest ih =>
      rw [occursIn, Bool.or_eq_true, List.isPrefixOf_iff_prefix, ih, List.infix_cons_iff]

theorem contains_self (text : String) : contains text text = true :=
  occursIn_iff_infix.mpr (List.infix_refl _)

/-! ## Letters with case -/

/-- Text that the rules of case look past. -/
def isIgnored (text : List Char) : Bool := text.all isCaseIgnorable

theorem meetsCased_append : meetsCased (word ++ after) =
    if isIgnored word then meetsCased after else meetsCased word := by
  induction word with
  | nil => rfl
  | cons c rest ih =>
      simp only [List.cons_append, meetsCased, ih, isIgnored, List.all_cons]
      by_cases hignorable : isCaseIgnorable c = true <;> simp [hignorable]

theorem meetsCased_of_ignored (hignored : isIgnored word = true) : meetsCased word = false := by
  rw [← List.append_nil word, meetsCased_append, if_pos hignored]
  rfl

theorem isIgnored_reverse : isIgnored word.reverse = isIgnored word := List.all_reverse

/-! ## Sigmas -/

/-- Is a capital sigma between these characters, the nearest first, the end of a word? -/
def isFinal (before after : List Char) : Bool := meetsCased before && !meetsCased after

theorem lowerBetween_sigma (before after : List Char) :
    lowerBetween before 'Σ' after = if isFinal before after then ['ς'] else ['σ'] := rfl

theorem lowerBetween_of_ne (hother : c ≠ 'Σ') (before after : List Char) :
    lowerBetween before c after = lowerBetween [] c [] := by
  rw [lowerBetween, lowerBetween, if_neg hother, if_neg hother]

theorem length_lowerBetween (before after before' after' : List Char) (c : Char) :
    (lowerBetween before c after).length = (lowerBetween before' c after').length := by
  by_cases hsigma : c = 'Σ'
  · rw [hsigma, lowerBetween_sigma, lowerBetween_sigma]
    split <;> split <;> rfl
  · rw [lowerBetween_of_ne hsigma, lowerBetween_of_ne hsigma before']

/-- Only whether a sigma is final tells two places apart. -/
theorem lowerBetween_eq_iff {before' after' : List Char} :
    lowerBetween before c after = lowerBetween before' c after' ↔
      (c = 'Σ' → isFinal before after = isFinal before' after') := by
  by_cases hsigma : c = 'Σ'
  · rw [hsigma, lowerBetween_sigma, lowerBetween_sigma]
    cases isFinal before after <;> cases isFinal before' after' <;> simp
  · rw [lowerBetween_of_ne hsigma, lowerBetween_of_ne hsigma before']
    exact iff_of_true rfl fun h => absurd h hsigma

/-! ## Words inside a text -/

/-- The lower-case form of a word between the characters `before`, nearest first, and the
characters `after`. -/
def lowercaseBetween (before : List Char) : (word after : List Char) → List Char
  | [], _ => []
  | c :: rest, after =>
      lowerBetween before c (rest ++ after) ++ lowercaseBetween (c :: before) rest after

theorem lowercaseAfter_append : lowercaseAfter before (word ++ after) =
    lowercaseBetween before word after ++ lowercaseAfter (word.reverse ++ before) after := by
  induction word generalizing before with
  | nil => rfl
  | cons c rest ih =>
      rw [List.cons_append, lowercaseAfter, ih, lowercaseBetween, List.append_assoc,
        List.reverse_cons, List.append_assoc]
      rfl

theorem lowercaseBetween_nil : lowercaseBetween before word [] = lowercaseAfter before word := by
  have happend : lowercaseAfter before (word ++ []) = _ := lowercaseAfter_append
  rw [List.append_nil, lowercaseAfter, List.append_nil] at happend
  exact happend.symm

theorem length_lowercaseBetween (before after before' after' word : List Char) :
    (lowercaseBetween before word after).length =
      (lowercaseBetween before' word after').length := by
  induction word generalizing before before' with
  | nil => rfl
  | cons c rest ih =>
      simp only [lowercaseBetween, List.length_append]
      rw [length_lowerBetween before _ before' (rest ++ after') c, ih (c :: before) (c :: before')]

/-- A word is folded alike at two places exactly when each of its sigmas is. -/
theorem lowercaseBetween_eq_iff {before' after' : List Char} :
    lowercaseBetween before word after = lowercaseBetween before' word after' ↔
      ∀ front back, word = front ++ 'Σ' :: back →
        isFinal (front.reverse ++ before) (back ++ after) =
          isFinal (front.reverse ++ before') (back ++ after') := by
  induction word generalizing before before' with
  | nil =>
      refine iff_of_true rfl fun front back hword => ?_
      cases front <;> cases hword
  | cons c rest ih =>
      have hpieces : lowercaseBetween before (c :: rest) after =
          lowercaseBetween before' (c :: rest) after' ↔
          lowerBetween before c (rest ++ after) = lowerBetween before' c (rest ++ after') ∧
            lowercaseBetween (c :: before) rest after =
              lowercaseBetween (c :: before') rest after' :=
        ⟨fun hsame => List.append_inj hsame (length_lowerBetween _ _ _ _ c),
          fun ⟨hfirst, hrest⟩ => by rw [lowercaseBetween, lowercaseBetween, hfirst, hrest]⟩
      rw [hpieces, lowerBetween_eq_iff, ih]
      constructor
      · rintro ⟨hfirst, hrest⟩ front back hword
        cases front with
        | nil =>
            obtain ⟨hsigma, rfl⟩ := List.cons.inj hword
            exact hfirst hsigma
        | cons d front =>
            obtain ⟨rfl, hback⟩ := List.cons.inj hword
            simpa using hrest front back hback
      · intro hall
        refine ⟨fun hsigma => hall [] rest (by rw [hsigma]; rfl), fun front back hrest => ?_⟩
        simpa using hall (c :: front) back (by rw [hrest]; rfl)

/-! ## Sigmas at the edges -/

/-- Some sigma of the word is folded otherwise between these texts than in the word alone. -/
inductive Sways (before word after : List Char) : Prop where
  /-- A word ends with a sigma that by itself begins one. -/
  | front (ignored rest : List Char) : word = ignored ++ 'Σ' :: rest → isIgnored ignored = true →
      meetsCased before.reverse = true → meetsCased (rest ++ after) = false →
      Sways before word after
  /-- A word goes on after a sigma that by itself ends it. -/
  | back (start ignored : List Char) : word = start ++ 'Σ' :: ignored → isIgnored ignored = true →
      meetsCased start.reverse = true → meetsCased after = true → Sways before word after

/-- The word has a sigma whose form may be told only by the text outside. -/
inductive HasOpenSigma (word : List Char) : Prop where
  | front (ignored rest : List Char) : word = ignored ++ 'Σ' :: rest → isIgnored ignored = true →
      meetsCased rest = false → HasOpenSigma word
  | back (start ignored : List Char) : word = start ++ 'Σ' :: ignored → isIgnored ignored = true →
      meetsCased start.reverse = true → HasOpenSigma word

theorem Sways.hasOpenSigma (hsways : Sways before word after) : HasOpenSigma word := by
  cases hsways with
  | front ignored rest hword hignored _ hafter =>
      refine .front ignored rest hword hignored ?_
      rw [meetsCased_append] at hafter
      split at hafter
      · exact meetsCased_of_ignored ‹_›
      · exact hafter
  | back start ignored hword hignored hstart _ => exact .back start ignored hword hignored hstart

theorem HasOpenSigma.mem (hopen : HasOpenSigma word) : 'Σ' ∈ word := by
  cases hopen with
  | front _ _ hword => exact hword ▸ List.mem_append_right _ List.mem_cons_self
  | back _ _ hword => exact hword ▸ List.mem_append_right _ List.mem_cons_self

/-- The sigma behind `front` is told apart by what stands outside of the word. -/
theorem isFinal_ne_iff {front back : List Char} :
    isFinal (front.reverse ++ before) (back ++ after) ≠ isFinal front.reverse back ↔
      isIgnored front = true ∧ meetsCased before = true ∧ meetsCased (back ++ after) = false ∨
        isIgnored back = true ∧ meetsCased front.reverse = true ∧ meetsCased after = true := by
  have hfront := @meetsCased_append front.reverse before
  have hback := @meetsCased_append back after
  rw [isIgnored_reverse] at hfront
  rw [isFinal, isFinal, hfront]
  cases hlead : isIgnored front with
  | true =>
      have hnone : meetsCased front.reverse = false :=
        meetsCased_of_ignored (isIgnored_reverse.trans hlead)
      simp [hnone]
  | false =>
      rw [hback]
      cases htrail : isIgnored back with
      | true => cases meetsCased front.reverse <;> simp [meetsCased_of_ignored htrail]
      | false => simp

/-- A word is folded in its place as by itself exactly when no sigma is swayed. -/
theorem lowercaseBetween_eq_lowercaseChars_iff :
    lowercaseBetween before.reverse word after = lowercaseChars word ↔
      ¬Sways before word after := by
  rw [lowercaseChars, ← lowercaseBetween_nil, lowercaseBetween_eq_iff]
  simp only [List.append_nil]
  constructor
  · intro hsame hsways
    cases hsways with
    | front ignored rest hword hignored hbefore hafter =>
        exact isFinal_ne_iff.mpr (.inl ⟨hignored, hbefore, hafter⟩) (hsame _ _ hword)
    | back start ignored hword hignored hstart hafter =>
        exact isFinal_ne_iff.mpr (.inr ⟨hignored, hstart, hafter⟩) (hsame _ _ hword)
  · intro hfree front back hword
    refine Decidable.byContradiction fun hdiffers => ?_
    obtain ⟨hignored, hbefore, hafter⟩ | ⟨hignored, hstart, hafter⟩ := isFinal_ne_iff.mp hdiffers
    · exact hfree (.front front back hword hignored hbefore hafter)
    · exact hfree (.back front back hword hignored hstart hafter)

/-! ## Finding words -/

/-- A word is found, in lower case, where it stands and no sigma of it is swayed. -/
theorem infix_of_not_sways (hfree : ¬Sways before word after) :
    lowercaseChars word <:+: lowercaseChars (before ++ word ++ after) := by
  rw [lowercaseChars, lowercaseChars, List.append_assoc, lowercaseAfter_append,
    lowercaseAfter_append, List.append_nil, lowercaseBetween_eq_lowercaseChars_iff.mpr hfree]
  exact ⟨_, _, List.append_assoc ..⟩

/-- Two letters with case that are their own lower-case form. -/
theorem plain_letters : ∀ c ∈ ['a', 'b'],
    meetsCased [c] = true ∧ ∀ before after, lowerBetween before c after = [c] := by
  intro c hc
  have hplain : meetsCased [c] = true ∧ c ≠ 'Σ' ∧ lowerBetween [] c [] = [c] := by
    simp only [List.mem_cons, List.not_mem_nil, or_false] at hc
    rcases hc with rfl | rfl
    · exact ⟨by decide +kernel, by decide, by decide +kernel⟩
    · exact ⟨by decide +kernel, by decide, by decide +kernel⟩
  obtain ⟨hcased, hother, hsame⟩ := hplain
  exact ⟨hcased, fun before after => (lowerBetween_of_ne hother before after).trans hsame⟩

/-- One of the letters is not this one. -/
theorem exists_plain_letter (taken : Option Char) : ∃ c ∈ ['a', 'b'], taken ≠ some c := by
  by_cases htaken : taken = some 'a'
  · exact ⟨'b', by simp, by simp [htaken]⟩
  · exact ⟨'a', by simp, htaken⟩

theorem infix_of_infix_cons {text : List Char} (hhead : word.head? ≠ some c)
    (hinside : word <:+: c :: text) : word <:+: text := by
  obtain hleading | hrest := List.infix_cons_iff.mp hinside
  · obtain rfl | ⟨rest, rfl, -⟩ := List.prefix_cons_iff.mp hleading
    · exact List.nil_infix
    · exact absurd rfl hhead
  · exact hrest

theorem infix_of_infix_concat {text : List Char} (hlast : word.getLast? ≠ some c)
    (hinside : word <:+: text ++ [c]) : word <:+: text := by
  obtain hsuffix | hrest := List.infix_concat_iff.mp hinside
  · obtain rfl | ⟨rest, rfl, -⟩ := List.suffix_concat_iff.mp hsuffix
    · exact List.nil_infix
    · exact absurd List.getLast?_concat hlast
  · exact hrest

/-- A swayed word does not stand, in lower case, in the piece of the text that it makes. -/
theorem Sways.not_infix (hsways : Sways before word after) :
    ¬lowercaseChars word <:+: lowercaseBetween before.reverse word after := by
  intro hinside
  refine lowercaseBetween_eq_lowercaseChars_iff.mp ?_ hsways
  have hlength := length_lowercaseBetween [] [] before.reverse after word
  rw [lowercaseBetween_nil] at hlength
  exact (hinside.eq_of_length hlength).symm

/-- A word with an open sigma is missed in some text that it stands in. -/
theorem HasOpenSigma.exists_missed (hopen : HasOpenSigma word) :
    ∃ before after, ¬lowercaseChars word <:+: lowercaseChars (before ++ word ++ after) := by
  cases hopen with
  | front ignored rest hword hignored hrest =>
      obtain ⟨c, hc, hhead⟩ := exists_plain_letter (lowercaseChars word).head?
      obtain ⟨hcased, hsame⟩ := plain_letters c hc
      have hsways : Sways [c] word [] :=
        .front ignored rest hword hignored hcased (by rw [List.append_nil]; exact hrest)
      have hwhole : lowercaseChars ([c] ++ word ++ []) = c :: lowercaseBetween [c] word [] := by
        rw [List.append_nil, lowercaseChars, List.singleton_append, lowercaseAfter, hsame,
          lowercaseBetween_nil]
        rfl
      refine ⟨[c], [], fun hinside => hsways.not_infix (infix_of_infix_cons hhead ?_)⟩
      rwa [hwhole] at hinside
  | back start ignored hword hignored hstart =>
      obtain ⟨c, hc, hlast⟩ := exists_plain_letter (lowercaseChars word).getLast?
      obtain ⟨hcased, hsame⟩ := plain_letters c hc
      have hsways : Sways [] word [c] := .back start ignored hword hignored hstart hcased
      have hwhole : lowercaseChars ([] ++ word ++ [c]) = lowercaseBetween [] word [c] ++ [c] := by
        rw [List.nil_append, lowercaseChars, lowercaseAfter_append, lowercaseAfter, hsame]
        rfl
      refine ⟨[], [c], fun hinside => hsways.not_infix (infix_of_infix_concat hlast ?_)⟩
      rwa [hwhole] at hinside

end DesktopTrial.Text
