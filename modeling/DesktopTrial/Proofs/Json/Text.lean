import DesktopTrial.Json.Printer
import DesktopTrial.Proofs.Decimal.Digits
import DesktopTrial.Proofs.Text.Literals

/-!
# JSON text is read back

The texts of a value, with white space between the tokens.  Both printers write such a
text, and from such a text the reader takes the value and hands back what stands behind it.
-/

namespace DesktopTrial.Json

/-! ## White space -/

def Blank (text : List Char) : Prop := ∀ c ∈ text, isSpace c = true

theorem Blank.nil : Blank [] := by
  intro c hc
  cases hc

theorem skipSpace_append {before : List Char} (hbefore : Blank before) (text : List Char) :
    skipSpace (before ++ text) = skipSpace text :=
  List.dropWhile_append_of_pos hbefore

theorem skipSpace_cons {c : Char} (hvisible : isSpace c = false) (text : List Char) :
    skipSpace (c :: text) = c :: text :=
  List.dropWhile_cons_of_neg (by simp [hvisible])

theorem skipSpace_skipSpace (text : List Char) : skipSpace (skipSpace text) = skipSpace text := by
  induction text with
  | nil => rfl
  | cons c text ih =>
      cases hvisible : isSpace c
      · rw [skipSpace_cons hvisible, skipSpace_cons hvisible]
      · have hblank : Blank [c] := by simpa [Blank] using hvisible
        rw [show c :: text = [c] ++ text from rfl, skipSpace_append hblank, ih]

theorem readValue?_skipSpace (fuel : Nat) (text : List Char) :
    readValue? fuel (skipSpace text) = readValue? fuel text := by
  cases fuel with
  | zero => rfl
  | succ fuel => simp only [readValue?, skipSpace_skipSpace]

theorem readValue?_append {before : List Char} (hbefore : Blank before) (fuel : Nat)
    (text : List Char) : readValue? fuel (before ++ text) = readValue? fuel text := by
  rw [← readValue?_skipSpace, skipSpace_append hbefore, readValue?_skipSpace]

theorem readItems?_skipSpace (fuel : Nat) (text : List Char) :
    readItems? fuel (skipSpace text) = readItems? fuel text := by
  cases fuel with
  | zero => rfl
  | succ fuel => simp only [readItems?, readValue?_skipSpace]

theorem readMembers?_skipSpace (fuel : Nat) (text : List Char) :
    readMembers? fuel (skipSpace text) = readMembers? fuel text := by
  cases fuel with
  | zero => rfl
  | succ fuel => simp only [readMembers?, skipSpace_skipSpace]

/-! ## Numbers -/

/-- A character that a number literal could go on with. -/
def isNumeral (c : Char) : Bool := c.isDigit || c == '.' || c == 'e' || c == 'E'

/-- The text of a number literal: it can be told from other values by its first character,
and is read up to the end. -/
structure Numeral (text : List Char) (literal : NumberText) : Prop where
  head : ∃ c rest, text = c :: rest ∧ (c = '-' ∨ c.isDigit = true)
  read : ∀ {rest}, Text.Stops isNumeral rest → readNumber? (text ++ rest) = some (literal, rest)

def NumberText.ofInt (n : Int) : NumberText :=
  ⟨⟨decide (n < 0), Decimal.digits n.natAbs, [], 0⟩, true⟩

/-- Digits after their sign are a literal. -/
theorem readNumber?_digits (n : Nat) (negative : Bool) {rest : List Char}
    (hrest : Text.Stops isNumeral rest) :
    readNumber? ((if negative then '-' :: Decimal.digits n else Decimal.digits n) ++ rest) =
      some (⟨⟨negative, Decimal.digits n, [], 0⟩, true⟩, rest) := by
  have hdigits : Text.Stops Char.isDigit rest :=
    hrest.mono fun c hc => by simp [isNumeral, hc]
  have htake := Text.takeWhile_append_of_stops (Decimal.isDigit_of_mem_digits (n := n)) hdigits
  have hdrop := Text.dropWhile_append_of_stops (Decimal.isDigit_of_mem_digits (n := n)) hdigits
  have hzero : ((Decimal.digits n).isEmpty ||
      (decide ((Decimal.digits n).length > 1) && (Decimal.digits n).head? == some '0')) =
        false := by
    rcases Nat.eq_zero_or_pos n with rfl | hpositive
    · rfl
    · simp [Decimal.digits_ne_nil, Decimal.head?_digits_ne_zero hpositive]
  have hpoint : ∀ more, rest ≠ '.' :: more := by
    rintro more rfl
    exact absurd (hrest '.' rfl) (by decide)
  have htail : readNumberTail? negative (Decimal.digits n) [] false rest =
      some (⟨⟨negative, Decimal.digits n, [], 0⟩, true⟩, rest) := by
    cases rest with
    | nil => rfl
    | cons c rest =>
        have hother := hrest c rfl
        simp only [isNumeral, Bool.or_eq_false_iff] at hother
        simp [readNumberTail?, hother]
  have hsign : ∀ more, Decimal.digits n ++ rest ≠ '-' :: more := by
    intro more hsame
    cases hcons : Decimal.digits n with
    | nil => exact Decimal.digits_ne_nil n hcons
    | cons d ds =>
        have hdigit := Decimal.isDigit_of_mem_digits (n := n) d (by simp [hcons])
        rw [hcons, List.cons_append] at hsame
        rw [(List.cons.inj hsame).1] at hdigit
        cases hdigit
  cases negative with
  | true =>
      simp only [readNumber?, if_true, List.cons_append, htake, hdrop, hzero, Bool.false_eq_true,
        if_false]
      exact htail
  | false =>
      simp only [readNumber?, Bool.false_eq_true, if_false, htake, hdrop, hzero]
      exact htail

theorem numeral_ofInt (n : Int) :
    Numeral (Decimal.ofInt n).toList (.ofInt n) where
  head := by
    rw [Decimal.ofInt, String.toList_ofList]
    split
    · exact ⟨_, _, rfl, .inl rfl⟩
    · cases hcons : Decimal.digits n.natAbs with
      | nil => exact absurd hcons (Decimal.digits_ne_nil _)
      | cons d ds =>
          exact ⟨d, ds, rfl, .inr (Decimal.isDigit_of_mem_digits (n := n.natAbs) d (by simp [hcons]))⟩
  read := by
    intro rest hrest
    have hread := readNumber?_digits n.natAbs (decide (n < 0)) hrest
    simp only [decide_eq_true_eq] at hread
    rw [Decimal.ofInt, String.toList_ofList]
    exact hread

/-- A whole number of 64 bits is read back. -/
theorem NumberText.integer?_ofInt {n : Int} (hleast : leastInteger ≤ n)
    (hgreatest : n ≤ greatestInteger) : (ofInt n).integer? = some n := by
  simp only [integer?, ofInt, Decimal.digitsValue_digits]
  grind

/-! ## The texts of a value -/

mutual

inductive Spelling : List Char → Written → Prop
  | null : Spelling (leafChars .null) .null
  | bool (value : Bool) : Spelling (leafChars (.bool value)) (.bool value)
  | number {text literal} : Numeral text literal → Spelling text (.number literal)
  | string (text : String) : Spelling (stringChars text.toList) (.string (some text))
  | noItems : Spelling ['[', ']'] (.array [])
  | array {text after items} :
      ItemsSpelling text items → Blank after →
        Spelling ('[' :: text ++ after ++ [']']) (.array items)
  | noMembers : Spelling ['\x7b', '\x7d'] (.object [])
  | object {text after members} :
      MembersSpelling text members → Blank after →
        Spelling ('\x7b' :: text ++ after ++ ['\x7d']) (.object members)

inductive ItemsSpelling : List Char → List Written → Prop
  | last {before text item} :
      Blank before → Spelling text item → ItemsSpelling (before ++ text) [item]
  | more {before text item rest items} :
      Blank before → Spelling text item → ItemsSpelling rest items →
        ItemsSpelling (before ++ text ++ ',' :: rest) (item :: items)

inductive MembersSpelling : List Char → List (Option String × Written) → Prop
  | last {before name between text value} :
      Blank before → Blank between → Spelling text value →
        MembersSpelling (before ++ stringChars (String.toList name) ++ ':' :: between ++ text)
          [(some name, value)]
  | more {before name between text value rest members} :
      Blank before → Blank between → Spelling text value → MembersSpelling rest members →
        MembersSpelling
          (before ++ stringChars (String.toList name) ++ ':' :: between ++ text ++ ',' :: rest)
          ((some name, value) :: members)

end

/-- A value begins with a character that is neither white space nor a closing mark. -/
theorem Spelling.head {text : List Char} {value : Written} (hspells : Spelling text value) :
    ∃ c rest, text = c :: rest ∧ isSpace c = false ∧ c ≠ ']' ∧ c ≠ '\x7d' := by
  cases hspells with
  | number hnumeral =>
      obtain ⟨c, rest, rfl, hc⟩ := hnumeral.head
      refine ⟨c, rest, rfl, ?_⟩
      rcases hc with rfl | hdigit
      · decide
      · refine ⟨?_, ?_, ?_⟩
        · simp only [isSpace, Bool.or_eq_false_iff, beq_eq_false_iff_ne]
          refine ⟨⟨⟨?_, ?_⟩, ?_⟩, ?_⟩ <;> (rintro rfl; cases hdigit)
        · rintro rfl
          cases hdigit
        · rintro rfl
          cases hdigit
  | bool value => cases value <;> exact ⟨_, _, rfl, by decide⟩
  | null | string | noItems | array | noMembers | object => exact ⟨_, _, rfl, by decide⟩

theorem Spelling.length_pos {text : List Char} {value : Written}
    (hspells : Spelling text value) : 0 < text.length := by
  obtain ⟨c, rest, rfl, -⟩ := hspells.head
  exact Nat.succ_pos _

theorem Spelling.skipSpace_ne {text rest before : List Char} {value : Written}
    (hspells : Spelling text value) (hbefore : Blank before) (more : List Char) :
    skipSpace (before ++ text ++ rest) ≠ ']' :: more := by
  obtain ⟨c, text, rfl, hspace, hbracket, -⟩ := hspells.head
  rw [List.append_assoc, skipSpace_append hbefore, List.cons_append, skipSpace_cons hspace]
  intro hsame
  exact hbracket (List.cons.inj hsame).1

/-- The items of an array do not begin with its closing bracket. -/
theorem ItemsSpelling.skipSpace_ne {text rest : List Char} {items : List Written}
    (hspells : ItemsSpelling text items) (more : List Char) :
    skipSpace (text ++ rest) ≠ ']' :: more := by
  cases hspells with
  | last hbefore hitem => exact hitem.skipSpace_ne hbefore more
  | more hbefore hitem hrest =>
      rw [List.append_assoc]
      exact hitem.skipSpace_ne hbefore more

/-- The members of an object begin with the quote of a name. -/
theorem MembersSpelling.skipSpace_ne {text rest : List Char}
    {members : List (Option String × Written)} (hspells : MembersSpelling text members)
    (more : List Char) : skipSpace (text ++ rest) ≠ '\x7d' :: more := by
  have hquote (before name rest : List Char) (hbefore : Blank before) :
      skipSpace (before ++ stringChars name ++ rest) ≠ '\x7d' :: more := by
    rw [List.append_assoc, skipSpace_append hbefore, stringChars, List.cons_append,
      List.cons_append, skipSpace_cons (by rfl)]
    intro hsame
    exact absurd (List.cons.inj hsame).1 (by decide)
  cases hspells with
  | last hbefore hbetween hvalue =>
      rw [List.append_assoc, List.append_assoc]
      exact hquote _ _ _ hbefore
  | more hbefore hbetween hvalue hrest =>
      simp only [List.append_assoc (_ ++ stringChars _)]
      exact hquote _ _ _ hbefore

/-- What stands behind a value inside an array or an object. -/
theorem stops_isNumeral {after rest : List Char} {c : Char} (hafter : Blank after)
    (hc : isNumeral c = false) : Text.Stops isNumeral (after ++ c :: rest) := by
  cases after with
  | nil => exact .cons hc
  | cons d after =>
      have hspace : isSpace d = true := hafter d List.mem_cons_self
      refine .cons ?_
      simp only [isSpace, Bool.or_eq_true, beq_iff_eq] at hspace
      rcases hspace with ((rfl | rfl) | rfl) | rfl <;> decide

/-! ## Reading the texts -/

/-- The first character decides that a number is read. -/
theorem Numeral.readValue? {text rest : List Char} {literal : NumberText}
    (hnumeral : Numeral text literal) (hrest : Text.Stops isNumeral rest) (fuel : Nat) :
    readValue? (fuel + 1) (text ++ rest) = some (.number literal, rest) := by
  have hread := hnumeral.read hrest
  have hhead := (Spelling.number hnumeral).head
  obtain ⟨c, more, rfl, hc⟩ := hnumeral.head
  obtain ⟨_, _, hcons, hspace, -⟩ := hhead
  cases hcons
  rw [List.cons_append] at hread
  rw [Json.readValue?, List.cons_append, skipSpace_cons hspace]
  split
  all_goals
    first
    | rw [hread]; rfl
    | (rename_i heq; rw [(List.cons.inj heq).1] at hc; rcases hc with hc | hc <;> cases hc)

/-- An array with items is read where its items are. -/
theorem readValue?_array {text : List Char} (hfirst : ∀ rest, skipSpace text ≠ ']' :: rest)
    (fuel : Nat) :
    readValue? (fuel + 1) ('[' :: text) =
      (readItems? fuel text).map fun result => (.array result.1, result.2) := by
  rw [readValue?, skipSpace_cons (by rfl)]
  simp only [readItems?_skipSpace]

theorem readValue?_object {text : List Char} (hfirst : ∀ rest, skipSpace text ≠ '\x7d' :: rest)
    (fuel : Nat) :
    readValue? (fuel + 1) ('\x7b' :: text) =
      (readMembers? fuel text).map fun result => (.object result.1, result.2) := by
  rw [readValue?, skipSpace_cons (by rfl)]
  simp only [readMembers?_skipSpace]

theorem stringChars_append (text rest : List Char) :
    stringChars text ++ rest = '"' :: (text.flatMap escapeChar ++ '"' :: rest) := by
  simp [stringChars]

/-- A member is read after its name. -/
theorem readMembers?_member {before between text rest : List Char} {name : String}
    {value : Written} (hbefore : Blank before) (hbetween : Blank between) {fuel : Nat}
    (hvalue : readValue? fuel text = some (value, rest)) :
    readMembers? (fuel + 1) (before ++ stringChars name.toList ++ ':' :: between ++ text) =
      match skipSpace rest with
      | '\x7d' :: rest => some ([(some name, value)], rest)
      | ',' :: rest =>
          (readMembers? fuel rest).map fun result => ((some name, value) :: result.1, result.2)
      | _ => none := by
  rw [readMembers?, List.append_assoc, List.append_assoc, skipSpace_append hbefore,
    stringChars_append]
  simp only [skipSpace_cons (show isSpace '"' = false from rfl), readString?_stringChars,
    List.cons_append, skipSpace_cons (show isSpace ':' = false from rfl)]
  rewrite [readValue?_append hbetween, hvalue]
  rfl

mutual

/-- A value is read from its text, with fuel for the length of the text. -/
theorem Spelling.readValue? {text : List Char} {value : Written} :
    Spelling text value → ∀ {fuel rest}, text.length ≤ fuel + 1 → Text.Stops isNumeral rest →
      Json.readValue? (fuel + 1) (text ++ rest) = some (value, rest)
  | .null, fuel, rest, _, _ => rfl
  | .bool value, fuel, rest, _, _ => by cases value <;> rfl
  | .number hnumeral, fuel, rest, _, hrest => hnumeral.readValue? hrest fuel
  | .string text, fuel, rest, _, _ => by
      rw [stringChars_append, Json.readValue?]
      simp only [skipSpace_cons (show isSpace '"' = false from rfl)]
      rw [readString?_stringChars, Option.map_some]
  | .noItems, fuel, rest, _, _ => rfl
  | @Spelling.array text after items hitems hafter, fuel, rest, hfuel, _ => by
      simp only [List.length_append, List.length_cons, List.length_nil] at hfuel
      obtain ⟨fuel, rfl⟩ : ∃ n, fuel = n + 1 := ⟨fuel - 1, by omega⟩
      have hread : readItems? (fuel + 1) (text ++ (after ++ ']' :: rest)) = some (items, rest) :=
        hitems.readItems? (by omega) hafter
      have hsplit : '[' :: text ++ after ++ [']'] ++ rest =
          '[' :: (text ++ (after ++ ']' :: rest)) := by simp
      rw [hsplit, readValue?_array hitems.skipSpace_ne, hread, Option.map_some]
  | .noMembers, fuel, rest, _, _ => rfl
  | @Spelling.object text after members hmembers hafter, fuel, rest, hfuel, _ => by
      simp only [List.length_append, List.length_cons, List.length_nil] at hfuel
      obtain ⟨fuel, rfl⟩ : ∃ n, fuel = n + 1 := ⟨fuel - 1, by omega⟩
      have hread : readMembers? (fuel + 1) (text ++ (after ++ '\x7d' :: rest)) =
          some (members, rest) := hmembers.readMembers? (by omega) hafter
      have hsplit : '\x7b' :: text ++ after ++ ['\x7d'] ++ rest =
          '\x7b' :: (text ++ (after ++ '\x7d' :: rest)) := by simp
      rw [hsplit, readValue?_object hmembers.skipSpace_ne, hread, Option.map_some]

theorem ItemsSpelling.readItems? {text : List Char} {items : List Written} :
    ItemsSpelling text items → ∀ {fuel after rest}, text.length ≤ fuel → Blank after →
      Json.readItems? (fuel + 1) (text ++ (after ++ ']' :: rest)) = some (items, rest)
  | @ItemsSpelling.last before text item hbefore hitem, fuel, after, rest, hfuel, hafter => by
      have hpositive := hitem.length_pos
      rw [List.length_append] at hfuel
      obtain ⟨fuel, rfl⟩ : ∃ n, fuel = n + 1 := ⟨fuel - 1, by omega⟩
      have hvalue : Json.readValue? (fuel + 1) (text ++ (after ++ ']' :: rest)) =
          some (item, after ++ ']' :: rest) :=
        hitem.readValue? (by omega) (stops_isNumeral hafter rfl)
      rw [Json.readItems?, List.append_assoc, readValue?_append hbefore, hvalue]
      simp only [skipSpace_append hafter, skipSpace_cons (show isSpace ']' = false from rfl)]
  | @ItemsSpelling.more before text item others items hbefore hitem hrest,
      fuel, after, rest, hfuel, hafter => by
      have hpositive := hitem.length_pos
      simp only [List.length_append, List.length_cons] at hfuel
      obtain ⟨fuel, rfl⟩ : ∃ n, fuel = n + 1 := ⟨fuel - 1, by omega⟩
      have hvalue : Json.readValue? (fuel + 1)
          (text ++ ',' :: (others ++ (after ++ ']' :: rest))) =
            some (item, ',' :: (others ++ (after ++ ']' :: rest))) :=
        hitem.readValue? (by omega) (.cons rfl)
      have hothers : Json.readItems? (fuel + 1) (others ++ (after ++ ']' :: rest)) =
          some (items, rest) := hrest.readItems? (by omega) hafter
      rw [Json.readItems?, List.append_assoc, List.append_assoc, readValue?_append hbefore,
        List.cons_append, hvalue]
      simp only [skipSpace_cons (show isSpace ',' = false from rfl), hothers, Option.map_some]

theorem MembersSpelling.readMembers? {text : List Char}
    {members : List (Option String × Written)} :
    MembersSpelling text members → ∀ {fuel after rest}, text.length ≤ fuel → Blank after →
      Json.readMembers? (fuel + 1) (text ++ (after ++ '\x7d' :: rest)) = some (members, rest)
  | @MembersSpelling.last _ _ _ text value hbefore hbetween hitem,
      fuel, after, rest, hfuel, hafter => by
      have hpositive := hitem.length_pos
      simp only [List.length_append, List.length_cons] at hfuel
      obtain ⟨fuel, rfl⟩ : ∃ n, fuel = n + 1 := ⟨fuel - 1, by omega⟩
      have hvalue : Json.readValue? (fuel + 1) (text ++ (after ++ '\x7d' :: rest)) =
          some (value, after ++ '\x7d' :: rest) :=
        hitem.readValue? (by omega) (stops_isNumeral hafter rfl)
      rw [List.append_assoc, readMembers?_member hbefore hbetween hvalue, skipSpace_append hafter,
        skipSpace_cons (by rfl)]
      rfl
  | @MembersSpelling.more _ _ _ text value others members hbefore hbetween hitem hrest,
      fuel, after, rest, hfuel, hafter => by
      have hpositive := hitem.length_pos
      simp only [List.length_append, List.length_cons] at hfuel
      obtain ⟨fuel, rfl⟩ : ∃ n, fuel = n + 1 := ⟨fuel - 1, by omega⟩
      have hvalue : Json.readValue? (fuel + 1)
          (text ++ ',' :: (others ++ (after ++ '\x7d' :: rest))) =
            some (value, ',' :: (others ++ (after ++ '\x7d' :: rest))) :=
        hitem.readValue? (by omega) (.cons rfl)
      have hothers : Json.readMembers? (fuel + 1) (others ++ (after ++ '\x7d' :: rest)) =
          some (members, rest) := hrest.readMembers? (by omega) hafter
      rw [List.append_assoc, List.append_assoc, List.cons_append,
        readMembers?_member hbefore hbetween hvalue, skipSpace_cons (by rfl)]
      simp only [hothers, Option.map_some]

end

/-- A text is read as the value that it spells. -/
theorem Spelling.read? {text : List Char} {value : Written} (hspells : Spelling text value) :
    Json.read? (String.ofList text) = some value := by
  have hread : Json.readValue? (text.length + 1) (text ++ []) = some (value, []) :=
    hspells.readValue? (by omega) .nil
  rw [List.append_nil] at hread
  rw [Json.read?, String.length_ofList, String.toList_ofList, hread]
  rfl

/-! ## What the printers write -/

mutual

def written : Json → Written
  | .null => .null
  | .bool value => .bool value
  | .integer value => .number (.ofInt value)
  | .float value =>
      match readNumber? (numberLayout.text value).toList with
      | some (literal, _) => .number literal
      | none => .null
  | .string value => .string (some value)
  | .array items => .array (writtenItems items)
  | .object members => .object (writtenMembers members)

def writtenItems : List Json → List Written
  | [] => []
  | item :: rest => item.written :: writtenItems rest

def writtenMembers : List (String × Json) → List (Option String × Written)
  | [] => []
  | (name, value) :: rest => (some name, value.written) :: writtenMembers rest

end

mutual

/-- The only numbers in the value are whole numbers of 64 bits. -/
def Whole : Json → Prop
  | .integer value => leastInteger ≤ value ∧ value ≤ greatestInteger
  | .float _ => False
  | .array items => WholeItems items
  | .object members => WholeMembers members
  | .null | .bool _ | .string _ => True

def WholeItems : List Json → Prop
  | [] => True
  | item :: rest => item.Whole ∧ WholeItems rest

def WholeMembers : List (String × Json) → Prop
  | [] => True
  | (_, value) :: rest => value.Whole ∧ WholeMembers rest

end

mutual

theorem compactChars_spelling : ∀ {value : Json}, value.Whole →
    Spelling (compactChars value) value.written
  | .null, _ => .null
  | .bool value, _ => .bool value
  | .integer value, _ => .number (numeral_ofInt value)
  | .string value, _ => .string value
  | .array [], _ => .noItems
  | .array (item :: rest), hwhole => by
      have hitems := compactItems_spelling (List.cons_ne_nil item rest) hwhole
      simpa [compactChars, written] using Spelling.array hitems .nil
  | .object [], _ => .noMembers
  | .object (member :: rest), hwhole => by
      have hmembers := compactMembers_spelling (List.cons_ne_nil member rest) hwhole
      simpa [compactChars, written] using Spelling.object hmembers .nil

theorem compactItems_spelling : ∀ {items : List Json}, items ≠ [] → WholeItems items →
    ItemsSpelling (compactItems items) (writtenItems items)
  | [], hsome, _ => absurd rfl hsome
  | [_], _, hwhole => .last .nil (compactChars_spelling hwhole.1)
  | _ :: next :: rest, _, hwhole =>
      .more .nil (compactChars_spelling hwhole.1)
        (compactItems_spelling (List.cons_ne_nil next rest) hwhole.2)

theorem compactMembers_spelling : ∀ {members : List (String × Json)}, members ≠ [] →
    WholeMembers members → MembersSpelling (compactMembers members) (writtenMembers members)
  | [], hsome, _ => absurd rfl hsome
  | [(name, value)], _, hwhole => by
      have hmember : MembersSpelling
          ([] ++ stringChars name.toList ++ ':' :: [] ++ compactChars value)
          [(some name, value.written)] := .last .nil .nil (compactChars_spelling hwhole.1)
      simpa [compactMembers, writtenMembers] using hmember
  | (name, value) :: next :: rest, _, hwhole => by
      have hrest := compactMembers_spelling (List.cons_ne_nil next rest) hwhole.2
      have hmembers : MembersSpelling
          ([] ++ stringChars name.toList ++ ':' :: [] ++ compactChars value ++
            ',' :: compactMembers (next :: rest))
          ((some name, value.written) :: writtenMembers (next :: rest)) :=
        .more .nil .nil (compactChars_spelling hwhole.1) hrest
      simpa [compactMembers, writtenMembers] using hmembers

end

theorem Blank.newLine (depth : Nat) : Blank (newLine depth) := by
  intro c hc
  rcases List.mem_cons.mp hc with rfl | hc
  · rfl
  · rw [(List.mem_replicate.mp hc).2]
    rfl

theorem Blank.space : Blank [' '] := by
  intro c hc
  rw [List.mem_singleton.mp hc]
  rfl

mutual

theorem prettyChars_spelling : ∀ {value : Json} (depth : Nat), value.Whole →
    Spelling (prettyChars depth value) value.written
  | .null, _, _ => .null
  | .bool value, _, _ => .bool value
  | .integer value, _, _ => .number (numeral_ofInt value)
  | .string value, _, _ => .string value
  | .array [], _, _ => .noItems
  | .array (item :: rest), depth, hwhole => by
      have hitems := prettyItems_spelling (depth + 1) (List.cons_ne_nil item rest) hwhole
      exact Spelling.array hitems (.newLine depth)
  | .object [], _, _ => .noMembers
  | .object (member :: rest), depth, hwhole => by
      have hmembers := prettyMembers_spelling (depth + 1) (List.cons_ne_nil member rest) hwhole
      exact Spelling.object hmembers (.newLine depth)

theorem prettyItems_spelling : ∀ {items : List Json} (depth : Nat), items ≠ [] →
    WholeItems items → ItemsSpelling (prettyItems depth items) (writtenItems items)
  | [], _, hsome, _ => absurd rfl hsome
  | [_], depth, _, hwhole => .last (.newLine depth) (prettyChars_spelling depth hwhole.1)
  | _ :: next :: rest, depth, _, hwhole =>
      .more (.newLine depth) (prettyChars_spelling depth hwhole.1)
        (prettyItems_spelling depth (List.cons_ne_nil next rest) hwhole.2)

theorem prettyMembers_spelling : ∀ {members : List (String × Json)} (depth : Nat), members ≠ [] →
    WholeMembers members →
      MembersSpelling (prettyMembers depth members) (writtenMembers members)
  | [], _, hsome, _ => absurd rfl hsome
  | [(name, value)], depth, _, hwhole => by
      have hmember : MembersSpelling
          (newLine depth ++ stringChars name.toList ++ ':' :: [' '] ++ prettyChars depth value)
          [(some name, value.written)] :=
        .last (.newLine depth) .space (prettyChars_spelling depth hwhole.1)
      simpa [prettyMembers, writtenMembers] using hmember
  | (name, value) :: next :: rest, depth, _, hwhole => by
      have hrest := prettyMembers_spelling depth (List.cons_ne_nil next rest) hwhole.2
      have hmembers : MembersSpelling
          (newLine depth ++ stringChars name.toList ++ ':' :: [' '] ++ prettyChars depth value ++
            ',' :: prettyMembers depth (next :: rest))
          ((some name, value.written) :: writtenMembers (next :: rest)) :=
        .more (.newLine depth) .space (prettyChars_spelling depth hwhole.1) hrest
      simpa [prettyMembers, writtenMembers] using hmembers

end

/-- What was written in one line is read back. -/
theorem read?_compact {value : Json} (hwhole : value.Whole) :
    read? (compact value) = some value.written :=
  (compactChars_spelling hwhole).read?

/-- What was written on indented lines is read back. -/
theorem read?_pretty {value : Json} (hwhole : value.Whole) :
    read? (pretty value) = some value.written :=
  (prettyChars_spelling 0 hwhole).read?

end DesktopTrial.Json
