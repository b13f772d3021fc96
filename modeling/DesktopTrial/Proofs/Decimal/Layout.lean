import DesktopTrial.Proofs.Decimal.Shortest

/-!
# Laid out decimals are read back

Wherever the point and the exponent are put, the digits of a decimal keep its value.  So
the text of a finite binary64 value is read as this value.
-/

namespace DesktopTrial.Decimal

open Float.Model Float.Model.UnpackedFloat
open Text (Stops takeWhile_append_of_stops dropWhile_append_of_stops)

/-! ## Runs of digits -/

theorem digitsValue_append (start : Nat) (xs ys : List Char) :
    digitsValue start (xs ++ ys) = digitsValue (digitsValue start xs) ys :=
  List.foldl_append

theorem digitsValue_zeros (start n : Nat) : digitsValue start (zeros n) = start * 10 ^ n := by
  induction n with
  | zero => rw [pow_zero, mul_one]; rfl
  | succ n ih =>
      have hlast : zeros (n + 1) = zeros n ++ ['0'] := List.replicate_succ'
      have hzero : digitValue '0' = 0 := rfl
      rw [hlast, digitsValue_append, ih, pow_succ]
      simp only [digitsValue, List.foldl_cons, List.foldl_nil, hzero]
      ring

theorem isDigit_of_mem_zeros {n : Nat} : ∀ c ∈ zeros n, c.isDigit = true := by
  intro c hc
  rw [List.eq_of_mem_replicate hc]
  rfl

/-- The characters that the text of a decimal is made of. -/
def isNumberChar (c : Char) : Bool := c.isDigit || c == '.' || c == 'e' || c == '-' || c == '+'

theorem isNumberChar_of_isDigit {c : Char} (hdigit : c.isDigit = true) :
    isNumberChar c = true := by
  simp [isNumberChar, hdigit]

theorem isNumberChar_of_digits {ds : List Char} (hdigits : ∀ c ∈ ds, c.isDigit = true) :
    ∀ c ∈ ds, isNumberChar c = true :=
  fun c hc => isNumberChar_of_isDigit (hdigits c hc)

/-! ## Signs, points and exponents -/

def Pieces.value (p : Pieces) : ℚ :=
  digitsValue (digitsValue 0 p.whole) p.fraction * 10 ^ (p.exponent - p.fraction.length)

def signChars (negative : Bool) : List Char := if negative then ['-'] else []

variable {whole fraction rest : List Char}

theorem readLenient?_sign (negative : Bool) {c : Char} (hdigit : c.isDigit = true) :
    readLenient? (signChars negative ++ c :: rest) =
      match (c :: rest).dropWhile Char.isDigit with
      | '.' :: more =>
          if ((c :: rest).takeWhile Char.isDigit).isEmpty &&
            (more.takeWhile Char.isDigit).isEmpty then none
          else readTail? negative ((c :: rest).takeWhile Char.isDigit)
            (more.takeWhile Char.isDigit) (more.dropWhile Char.isDigit)
      | more =>
          if ((c :: rest).takeWhile Char.isDigit).isEmpty then none
          else readTail? negative ((c :: rest).takeWhile Char.isDigit) [] more := by
  cases negative with
  | true => rfl
  | false =>
      rewrite [signChars, if_neg Bool.false_ne_true, List.nil_append, readLenient?]
      · rfl
      all_goals
        intro more heq
        cases heq
        cases hdigit

/-- Digits on both sides of a point. -/
theorem readLenient?_point (negative : Bool) (hsome : whole ≠ [])
    (hwhole : ∀ c ∈ whole, c.isDigit = true) (hfraction : ∀ c ∈ fraction, c.isDigit = true)
    (hrest : Stops Char.isDigit rest) :
    readLenient? (signChars negative ++ (whole ++ '.' :: (fraction ++ rest))) =
      readTail? negative whole fraction rest := by
  obtain ⟨c, ds, rfl⟩ := List.exists_cons_of_ne_nil hsome
  have hpoint : Stops Char.isDigit ('.' :: (fraction ++ rest)) := Stops.cons rfl
  rw [List.cons_append, readLenient?_sign negative (hwhole c List.mem_cons_self),
    ← List.cons_append, dropWhile_append_of_stops hwhole hpoint,
    takeWhile_append_of_stops hwhole hpoint]
  simp only [takeWhile_append_of_stops hfraction hrest, dropWhile_append_of_stops hfraction hrest,
    List.isEmpty_cons, Bool.false_and, Bool.false_eq_true, if_false]

/-- Digits without a point. -/
theorem readLenient?_whole (negative : Bool) (hsome : whole ≠ [])
    (hwhole : ∀ c ∈ whole, c.isDigit = true) (hrest : Stops Char.isDigit rest)
    (hpoint : ∀ more, rest ≠ '.' :: more) :
    readLenient? (signChars negative ++ (whole ++ rest)) = readTail? negative whole [] rest := by
  obtain ⟨c, ds, rfl⟩ := List.exists_cons_of_ne_nil hsome
  rw [List.cons_append, readLenient?_sign negative (hwhole c List.mem_cons_self),
    ← List.cons_append, dropWhile_append_of_stops hwhole hrest,
    takeWhile_append_of_stops hwhole hrest]
  split
  · rename_i more
    exact absurd rfl (hpoint more)
  · simp only [List.isEmpty_cons, Bool.false_eq_true, if_false]

theorem readExponent?_digits (n : Nat) : readExponent? (digits n) = some (n : Int) := by
  have hall : (digits n).all Char.isDigit = true := List.all_eq_true.mpr isDigit_of_mem_digits
  rw [readExponent?]
  · simp [hall, digits_ne_nil, digitsValue_digits]
  all_goals
    intro rest heq
    have hdigit := isDigit_of_mem_digits (n := n) _ (heq ▸ List.mem_cons_self)
    cases hdigit

/-- The exponent behind its mark, with a plus sign or without. -/
theorem readTail?_exponent (layout : Layout) (negative : Bool) (lead : Int) :
    readTail? negative whole fraction
        ('e' :: (if lead < 0 then ['-'] else if layout.exponentPlus then ['+'] else []) ++
          digits lead.natAbs) =
      some ⟨negative, whole, fraction, lead⟩ := by
  have hall : (digits lead.natAbs).all Char.isDigit = true :=
    List.all_eq_true.mpr isDigit_of_mem_digits
  have hexponent : readExponent? ((if lead < 0 then ['-'] else
      if layout.exponentPlus then ['+'] else []) ++ digits lead.natAbs) = some lead := by
    split
    · rename_i hnegative
      simp only [List.cons_append, List.nil_append, readExponent?, hall, digitsValue_digits]
      simp [digits_ne_nil, abs_of_neg hnegative]
    · rename_i hpositive
      have hvalue : ((lead.natAbs : Nat) : Int) = lead := by omega
      split
      · simp only [List.cons_append, List.nil_append, readExponent?, hall, digitsValue_digits]
        simp [digits_ne_nil, hvalue]
      · rw [List.nil_append, readExponent?_digits, hvalue]
  simp only [List.cons_append, readTail?, hexponent]
  rfl

/-! ## Decimals without sign -/

/-- The text of a decimal without sign, as a layout writes it. -/
structure Spells (layout : Layout) (body : List Char) (d : Scaled) : Prop where
  opens : ∃ c rest, body = c :: rest ∧ c.isDigit = true
  chars : ∀ c ∈ body, isNumberChar c = true
  /-- It is not the text of a whole number when whole numbers keep a point. -/
  marked : layout.pointZero = true → ∃ c ∈ body, c.isDigit = false
  /-- Behind a sign or none, its pieces are found and have the value. -/
  read : ∀ negative, ∃ p, readLenient? (signChars negative ++ body) = some p ∧
    p.negative = negative ∧ p.value = d.value

variable {layout : Layout} {d : Scaled}

/-- Digits on both sides of a point, and what they are worth. -/
theorem Spells.point (hsome : whole ≠ []) (hwhole : ∀ c ∈ whole, c.isDigit = true)
    (hfraction : ∀ c ∈ fraction, c.isDigit = true)
    (hvalue : digitsValue 0 (whole ++ fraction) * 10 ^ (-fraction.length : Int) = d.value) :
    Spells layout (whole ++ '.' :: fraction) d where
  opens := by
    obtain ⟨c, ds, rfl⟩ := List.exists_cons_of_ne_nil hsome
    exact ⟨c, _, rfl, hwhole c List.mem_cons_self⟩
  chars := List.forall_mem_append.mpr ⟨isNumberChar_of_digits hwhole,
    List.forall_mem_cons.mpr ⟨rfl, isNumberChar_of_digits hfraction⟩⟩
  marked _ := ⟨'.', by simp, rfl⟩
  read negative := by
    have hread := readLenient?_point negative hsome hwhole hfraction Stops.nil
    rw [List.append_nil] at hread
    refine ⟨⟨negative, whole, fraction, 0⟩, by rw [hread, readTail?], rfl, ?_⟩
    rw [Pieces.value, ← digitsValue_append, zero_sub]
    exact hvalue

/-- Digits alone, and what they are worth. -/
theorem Spells.pointless (hsome : whole ≠ []) (hwhole : ∀ c ∈ whole, c.isDigit = true)
    (hpoint : layout.pointZero = false) (hvalue : (digitsValue 0 whole : ℚ) = d.value) :
    Spells layout whole d where
  opens := by
    obtain ⟨c, ds, rfl⟩ := List.exists_cons_of_ne_nil hsome
    exact ⟨c, ds, rfl, hwhole c List.mem_cons_self⟩
  chars := isNumberChar_of_digits hwhole
  marked hkept := by
    rw [hpoint] at hkept
    cases hkept
  read negative := by
    have hread := readLenient?_whole negative hsome hwhole Stops.nil fun _ h => nomatch h
    rw [List.append_nil] at hread
    refine ⟨⟨negative, whole, [], 0⟩, by rw [hread, readTail?], rfl, ?_⟩
    simpa [Pieces.value, digitsValue] using hvalue

/-- A whole number is its digits with zeros behind them, and a point if whole numbers keep one. -/
theorem Layout.spells_whole (layout : Layout) (d : Scaled) (hpositive : 0 ≤ d.exponent) :
    Spells layout (digits d.digits ++ zeros d.exponent.toNat ++
      if layout.pointZero then ['.', '0'] else []) d := by
  have hsome : digits d.digits ++ zeros d.exponent.toNat ≠ [] := by
    simp [digits_ne_nil d.digits]
  have hwhole : ∀ c ∈ digits d.digits ++ zeros d.exponent.toNat, c.isDigit = true :=
    List.forall_mem_append.mpr ⟨isDigit_of_mem_digits, isDigit_of_mem_zeros⟩
  have hexponent : (10 : ℚ) ^ d.exponent = 10 ^ d.exponent.toNat := by
    rw [← zpow_natCast, Int.toNat_of_nonneg hpositive]
  have hvalue : (digitsValue 0 (digits d.digits ++ zeros d.exponent.toNat) : ℚ) = d.value := by
    rw [digitsValue_append, digitsValue_digits, digitsValue_zeros, Scaled.value, hexponent]
    push_cast
    rfl
  split
  · refine Spells.point hsome hwhole (by simp) ?_
    rw [digitsValue_append, ← hvalue]
    have hzero : digitValue '0' = 0 := rfl
    simp only [digitsValue, List.foldl_cons, List.foldl_nil, hzero, List.length_cons,
      List.length_nil]
    push_cast
    norm_num
    ring
  · rename_i hpoint
    rw [List.append_nil]
    exact Spells.pointless hsome hwhole (Bool.eq_false_iff.mpr hpoint) hvalue

theorem Layout.spells_positional (layout : Layout) (d : Scaled) :
    Spells layout (layout.positionalChars (digits d.digits) d.exponent) d := by
  have hdigits := isDigit_of_mem_digits (n := d.digits)
  have hsome := digits_ne_nil d.digits
  have hlength : 0 < (digits d.digits).length := List.length_pos_of_ne_nil hsome
  rw [Layout.positionalChars]
  split
  · exact layout.spells_whole d ‹_›
  · split
    · rename_i hnegative hlead
      refine Spells.point ?_ (fun c hc => hdigits c (List.mem_of_mem_take hc))
        (fun c hc => hdigits c (List.mem_of_mem_drop hc)) ?_
      · simp [hsome]
      · rw [List.take_append_drop, digitsValue_digits, List.length_drop, Scaled.value]
        congr 2
        omega
    · rename_i hnegative hlead
      have hfraction : ∀ c ∈ zeros ((-(d.exponent + (digits d.digits).length - 1)).toNat - 1) ++
          digits d.digits, c.isDigit = true :=
        List.forall_mem_append.mpr ⟨isDigit_of_mem_zeros, hdigits⟩
      change Spells layout (['0'] ++ '.' :: (zeros _ ++ digits d.digits)) d
      refine Spells.point (by simp) (by simp) hfraction ?_
      have hzero : digitsValue 0 ['0'] = 0 := rfl
      rw [digitsValue_append, digitsValue_append, digitsValue_zeros, hzero, zero_mul,
        digitsValue_digits, Scaled.value, List.length_append, zeros, List.length_replicate]
      congr 2
      push_cast
      omega

def Layout.exponentChars (layout : Layout) (lead : Int) : List Char :=
  'e' :: (if lead < 0 then ['-'] else if layout.exponentPlus then ['+'] else []) ++
    digits lead.natAbs

theorem isNumberChar_of_mem_exponentChars {lead : Int} :
    ∀ c ∈ layout.exponentChars lead, isNumberChar c = true := by
  intro c hc
  simp only [Layout.exponentChars, List.cons_append, List.mem_cons, List.mem_append] at hc
  rcases hc with rfl | hsign | hdigit
  · rfl
  · split at hsign
    · rw [List.mem_singleton.mp hsign]
      rfl
    · split at hsign
      · rw [List.mem_singleton.mp hsign]
        rfl
      · cases hsign
  · exact isNumberChar_of_isDigit (isDigit_of_mem_digits c hdigit)

/-- A digit before the point, the others behind it, and the exponent. -/
theorem Layout.spells_exponential (layout : Layout) (d : Scaled) :
    Spells layout (layout.exponentialChars (digits d.digits) d.exponent) d := by
  have hdigits := isDigit_of_mem_digits (n := d.digits)
  have hvalue := digitsValue_digits d.digits
  obtain ⟨c, ds, hsome⟩ := List.exists_cons_of_ne_nil (digits_ne_nil d.digits)
  rw [hsome] at hdigits hvalue ⊢
  have hfirst := hdigits c List.mem_cons_self
  have hothers : ∀ other ∈ ds, other.isDigit = true :=
    fun other hother => hdigits other (List.mem_cons_of_mem _ hother)
  set lead : Int := d.exponent + (c :: ds).length - 1 with hlead
  have htail : Stops Char.isDigit (layout.exponentChars lead) := Stops.cons rfl
  have hmark : 'e' ∈ layout.exponentChars lead := List.mem_cons_self
  cases ds with
  | nil =>
      have hbody : layout.exponentialChars [c] d.exponent = [c] ++ layout.exponentChars lead := rfl
      rw [hbody]
      refine ⟨⟨c, _, rfl, hfirst⟩, ?_, fun _ => ⟨'e', List.mem_append_right _ hmark, rfl⟩, ?_⟩
      · exact List.forall_mem_append.mpr
          ⟨isNumberChar_of_digits hdigits, isNumberChar_of_mem_exponentChars⟩
      · intro negative
        rw [readLenient?_whole negative (by simp) hdigits htail fun _ h => nomatch h]
        refine ⟨_, readTail?_exponent layout negative lead, rfl, ?_⟩
        have hdigit : digitsValue (digitsValue 0 [c]) [] = d.digits := hvalue
        rw [Pieces.value, hdigit, Scaled.value]
        congr 2
        simp [hlead]
  | cons second ds =>
      have hbody : layout.exponentialChars (c :: second :: ds) d.exponent =
          [c] ++ '.' :: (second :: ds ++ layout.exponentChars lead) := by
        simp only [Layout.exponentialChars, Layout.exponentChars, hlead, List.cons_append,
          List.nil_append, List.append_assoc]
      rw [hbody]
      refine ⟨⟨c, _, rfl, hfirst⟩, ?_, fun _ => ⟨'.', by simp, rfl⟩, ?_⟩
      · exact List.forall_mem_cons.mpr ⟨isNumberChar_of_isDigit hfirst,
          List.forall_mem_cons.mpr ⟨rfl, List.forall_mem_append.mpr
            ⟨isNumberChar_of_digits hothers, isNumberChar_of_mem_exponentChars⟩⟩⟩
      · intro negative
        rw [readLenient?_point negative (by simp) (by simpa using hfirst) hothers htail]
        refine ⟨_, readTail?_exponent layout negative lead, rfl, ?_⟩
        rw [Pieces.value, ← digitsValue_append, List.singleton_append, hvalue, Scaled.value]
        congr 2
        simp only [hlead, List.length_cons]
        omega

theorem Layout.spells_chars (layout : Layout) (d : Scaled) : Spells layout (layout.chars d) d := by
  rw [Layout.chars]
  split
  · exact layout.spells_positional d
  · exact layout.spells_exponential d

/-! ## Values -/

def Layout.body (layout : Layout) (x : Binary) : List Char :=
  if x.significand = 0 then '0' :: (if layout.pointZero then ['.', '0'] else [])
  else layout.chars (x.shortest layout.tie)

/-- The text of a finite value is a sign and the text of its magnitude. -/
theorem Layout.toList_text (layout : Layout) {x : Float} (hfinite : x.isFinite = true) :
    (layout.text x).toList =
      signChars (signBit x.toBits) ++ layout.body (Binary.ofBits x.toBits) := by
  have hunpack := unpack_toModel hfinite
  have hnumber : x.isNaN = false := by
    change x.toModel.unpack.isNaN = false
    rw [hunpack]
    split <;> rfl
  have hbounded : x.isInf = false := by
    change x.toModel.unpack.isInf = false
    rw [hunpack]
    split <;> rfl
  simp only [Layout.text, hnumber, hbounded, Bool.false_eq_true, if_false, String.toList_ofList]
  cases signBit x.toBits <;> rfl

/-- The text of zero. -/
theorem Layout.spells_zero (layout : Layout) :
    Spells layout ('0' :: (if layout.pointZero then ['.', '0'] else [])) ⟨0, 0⟩ := by
  split
  · change Spells layout (['0'] ++ '.' :: ['0']) ⟨0, 0⟩
    exact Spells.point (by simp) (by simp) (by simp) (by
      simp [digitsValue, digitValue, Scaled.value])
  · rename_i hpoint
    exact Spells.pointless (by simp) (by simp) (Bool.eq_false_iff.mpr hpoint) (by
      simp [digitsValue, digitValue, Scaled.value])

theorem Layout.spells_body (layout : Layout) (x : Binary) :
    ∃ d, Spells layout (layout.body x) d ∧
      d.value = if x.significand = 0 then 0 else (x.shortest layout.tie).value := by
  rw [Layout.body]
  split
  · exact ⟨⟨0, 0⟩, layout.spells_zero, by simp [Scaled.value]⟩
  · exact ⟨_, layout.spells_chars _, rfl⟩

/-- A value whose magnitude is zero is one of the two zeros. -/
theorem toFloat_zero {x : Float} (hfinite : x.isFinite = true)
    (hzero : (Binary.ofBits x.toBits).significand = 0) (e : Int) :
    Decimal.toFloat (signBit x.toBits) 0 e = x := by
  have hunpack := unpack_toModel hfinite
  rw [dif_pos hzero] at hunpack
  have hvalue := ofModel_pack_unpack x
  rw [hunpack, signOf] at hvalue
  refine Eq.trans ?_ hvalue
  cases signBit x.toBits with
  | false =>
      change (0.0 : Float) = .ofModel (.pack (.zero .positive))
      decide +kernel
  | true =>
      change (-0.0 : Float) = .ofModel (.pack (.zero .negative))
      decide +kernel

/-- The text of a finite value is read as the value. -/
theorem readLenient?_text (layout : Layout) {x : Float} (hfinite : x.isFinite = true) :
    ∃ p, readLenient? (layout.text x).toList = some p ∧ p.toFloat = x := by
  obtain ⟨d, hspells, hvalue⟩ := layout.spells_body (Binary.ofBits x.toBits)
  obtain ⟨p, hread, hsign, hpieces⟩ := hspells.read (signBit x.toBits)
  refine ⟨p, by rw [layout.toList_text hfinite, hread], ?_⟩
  rw [hvalue] at hpieces
  rw [Pieces.toFloat, hsign]
  by_cases hzero : (Binary.ofBits x.toBits).significand = 0
  · rw [if_pos hzero] at hpieces
    have hdigits : digitsValue (digitsValue 0 p.whole) p.fraction = 0 := by
      have hpower : (10 : ℚ) ^ (p.exponent - p.fraction.length) ≠ 0 :=
        (zpow_pos (by norm_num) _).ne'
      exact_mod_cast (mul_eq_zero.mp hpieces).resolve_right hpower
    rw [hdigits]
    exact toFloat_zero hfinite hzero _
  · rw [if_neg hzero] at hpieces
    have hcanonical := canonical_ofBits hfinite (Nat.pos_of_ne_zero hzero)
    have hcovers := Binary.covers_shortest hcanonical layout.tie
    rw [← hpieces, Pieces.value] at hcovers
    have hdigits : 0 < digitsValue (digitsValue 0 p.whole) p.fraction := by
      by_contra hnone
      have hpositive := hcovers.pos hcanonical
      rw [Nat.eq_zero_of_not_pos hnone] at hpositive
      simp at hpositive
    rw [toFloat_of_covers hcanonical hdigits hcovers, Binary.float]
    have hunpack := unpack_toModel hfinite
    rw [dif_neg hzero] at hunpack
    have hsame := ofModel_pack_unpack x
    rw [hunpack] at hsame
    exact hsame

end DesktopTrial.Decimal
