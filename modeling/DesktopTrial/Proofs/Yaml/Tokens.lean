import DesktopTrial.Proofs.Yaml.Denotation
import DesktopTrial.Proofs.Yaml.Keys
import DesktopTrial.Proofs.Yaml.Words

/-!
# Documents are found in their text

The tokens of a document, and that the scan of its text finds them.  Behind a key, behind a
mark and behind a tag a value begins differently, but it always ends with a line that is
not indented further than the collection that it stands in.
-/

namespace DesktopTrial

namespace Document

open Yaml (Token Opening presentation numberLayout)

mutual

def tokens (opening : Opening) : Document → List Token
  | .null => [.scalar .plain "null"]
  | .bool value => [.scalar .plain (if value then "true" else "false")]
  | .integer value => [.scalar .plain (Decimal.ofInt value)]
  | .float value => [.scalar .plain (numberLayout.text value)]
  | .text value => [.scalar (presentation value) value]
  | .sequence [] => [.flowSequenceStart, .flowSequenceEnd]
  | .sequence (item :: rest) =>
      match opening with
      | .afterKey => tokensOfItems (item :: rest)
      | _ => .blockSequenceStart :: (tokensOfItems (item :: rest) ++ [.blockEnd])
  | .mapping [] => [.flowMappingStart, .flowMappingEnd]
  | .mapping (member :: rest) =>
      .blockMappingStart :: (tokensOfMembers (member :: rest) ++ [.blockEnd])
  | .variant name content =>
      .tag "!" name :: content.tokens (if opening = .afterMark then .afterTag else opening)

def tokensOfItems : List Document → List Token
  | [] => []
  | item :: rest => .blockEntry :: (item.tokens .afterMark ++ tokensOfItems rest)

def tokensOfMembers : List (String × Document) → List Token
  | [] => []
  | (key, value) :: rest =>
      .key :: .scalar (presentation key) key :: .value ::
        (value.tokens (if Yaml.isSimpleKey key then .afterKey else .afterMark) ++
          tokensOfMembers rest)

end

end Document

namespace Yaml

open Document (tokensOfItems tokensOfMembers)
open Scan (inBlock Opened)

variable {p : Place} {rest tail : List Char} {tokens tokens' result : List Token}
  {indents outer : List Nat} {candidate : Option KeyCandidate} {keyAllowed : Bool} {indent n : Nat}

/-! ## Beginnings -/

/-- A value begins behind a space or on the next line. -/
theorem endsWord_valueChars (indent : Nat) (opening : Opening) (document : Document) :
    endsWord (valueChars indent opening document ++ rest) = true := by
  cases document with
  | sequence items => cases items <;> cases opening <;> rfl
  | mapping members => cases members <;> cases opening <;> rfl
  | null | bool | integer | float | text | variant => rfl

theorem itemsChars_false (indent : Nat) (item : Document) (items : List Document) :
    itemsChars indent false (item :: items) = spaces indent ++ itemsChars indent true (item :: items) := by
  simp only [itemsChars, Bool.false_eq_true, if_false, if_true, List.nil_append, List.append_assoc]

theorem membersChars_false (indent : Nat) (member : String × Document)
    (members : List (String × Document)) :
    membersChars indent false (member :: members) =
      spaces indent ++ membersChars indent true (member :: members) := by
  obtain ⟨key, value⟩ := member
  simp only [membersChars, Bool.false_eq_true, if_false, if_true, List.nil_append, List.append_assoc]

namespace Scan

theorem Ends.continues {text : List Char} (hends : Ends text n tokens indents result)
    (hopens : Opens text) : Continues n (spaces n ++ text) tokens indents result :=
  ⟨n, text, rfl, hopens, Nat.le_refl n, hends⟩

/-- A collection may begin behind a mark, on the same line. -/
theorem Ends.finds_space {text : List Char} (hends : Ends text (p.column + 1) tokens indents result)
    (hopens : Opens text) (hplace : p.rest = ' ' :: text) :
    (inBlock p tokens indents true none).Finds result := by
  intro fuel hfuel
  obtain ⟨fuel, rfl⟩ : ∃ m, fuel = m + 1 := ⟨fuel - 1, by omega⟩
  have hspace : p.rest = spaces 1 ++ text := hplace
  have hskip : (inBlock p tokens indents true none).skipToToken (p.rest.length + 1) =
      inBlock (p.advance 1) tokens indents true none := skipToToken_spaces hspace hopens
  have hdrop : (inBlock (p.advance 1) tokens indents true none).dropStale? =
      some (inBlock (p.advance 1) tokens indents true none) := rfl
  have hshort : text.length ≤ fuel := by
    rw [hplace, List.length_cons] at hfuel
    exact Nat.le_of_succ_le (Nat.lt_of_succ_lt_succ hfuel)
  rw [run?_eq_tokenRun? hskip hdrop]
  exact hends _ fuel (Place.rest_advance_spaces hspace) rfl hshort

end Scan

/-! ## Values -/

/-- The scan finds a value behind a key, a mark or a tag, when it finds what follows it. -/
structure Found (document : Document) : Prop where
  finds : ∀ {opening : Opening} {indent : Nat} {tail : List Char} {tokens result : List Token}
    {outer : List Nat} {p : Place} {candidate : Option KeyCandidate} {keyAllowed : Bool},
    p.rest = valueChars indent opening document ++ tail → Idle candidate p.line →
    indent < p.column →
    (opening = .afterMark → keyAllowed = true ∧ candidate = none ∧ p.column = indent + 1) →
    Scan.Continues indent tail ((document.tokens opening).reverse ++ tokens) (indent :: outer) result →
    (inBlock p tokens (indent :: outer) keyAllowed candidate).Finds result

/-- A word on the rest of its line is found. -/
theorem found_word {document : Document} {word : String} (hallowed : plainAllowed word.toList = true)
    (hsome : word.toList ≠ [])
    (hchars : ∀ indent opening, valueChars indent opening document = restOfLine word.toList)
    (htokens : ∀ opening, document.tokens opening = [.scalar .plain word]) : Found document := by
  constructor
  intro opening indent tail tokens result outer p candidate keyAllowed hplace hidle hindent _ htail
  rw [hchars, restOfLine, List.cons_append, List.cons_append, List.append_assoc] at hplace
  rw [htokens] at htail
  refine Scan.finds_plainLine hallowed hsome hplace hidle (Nat.le_of_lt hindent) ?_
  rw [String.ofList_toList]
  exact htail

theorem found_text (text : String) : Found (.text text) := by
  constructor
  intro opening indent tail tokens result outer p candidate keyAllowed hplace hidle hindent _ htail
  exact Scan.finds_scalarLine hplace hidle (Nat.le_of_lt hindent) htail

/-- An item is found with its mark. -/
theorem ends_item {item : Document} (hitem : Found item)
    (hopened : Opened indent .blockSequenceStart tokens indents tokens' (indent :: outer))
    (htail : Scan.Continues indent tail ((item.tokens .afterMark).reverse ++ .blockEntry :: tokens')
      (indent :: outer) result) :
    Scan.Ends ('-' :: (valueChars indent .afterMark item ++ tail)) indent tokens indents result := by
  refine Scan.Ends.of_token hopened.le fun place hplace hcolumn => ?_
  have hends : endsWord (valueChars indent .afterMark item ++ tail) = true :=
    endsWord_valueChars indent .afterMark item
  have hbehind : (place.advance 1).rest = valueChars indent .afterMark item ++ tail := by
    rw [Place.advance, hplace]
    rfl
  have hat : (place.advance 1).column = indent + 1 := by rw [Place.advance, hcolumn]
  refine ⟨_, Scan.token?_entry hplace hends (by rw [hcolumn]; exact hopened), ?_, ?_⟩
  · rw [hbehind]
  · exact hitem.finds hbehind (Idle.none _) (by omega) (fun _ => ⟨rfl, rfl, hat⟩) htail

/-- A value is found behind a colon on a line of its own. -/
theorem ends_value {value : Document} (hvalue : Found value)
    (htail : Scan.Continues indent tail ((value.tokens .afterMark).reverse ++ .value :: tokens)
      (indent :: outer) result) :
    Scan.Ends (':' :: (valueChars indent .afterMark value ++ tail)) indent tokens (indent :: outer)
      result := by
  have hindents : ∀ m ∈ (indent :: outer).head?, m ≤ indent := by
    intro m hm
    cases hm
    exact Nat.le_refl _
  refine Scan.Ends.of_token hindents fun place hplace hcolumn => ?_
  have hends : endsWord (valueChars indent .afterMark value ++ tail) = true :=
    endsWord_valueChars indent .afterMark value
  have hmark : place.atDocumentMark = false := by
    rw [Place.atDocumentMark, hplace]
    exact Bool.and_false _
  have hbehind : (place.advance 1).rest = valueChars indent .afterMark value ++ tail := by
    rw [Place.advance, hplace]
    rfl
  have hat : (place.advance 1).column = indent + 1 := by rw [Place.advance, hcolumn]
  have htoken : (inBlock place tokens (indent :: outer) true none).token? ':'
      (valueChars indent .afterMark value ++ tail) =
        some (inBlock (place.advance 1) (.value :: tokens) (indent :: outer) true none) := by
    rw [Scan.token?_value hmark hends, ← hcolumn]
    exact Scan.value?_alone outer
  refine ⟨_, htoken, ?_, ?_⟩
  · rw [hbehind]
  · exact hvalue.finds hbehind (Idle.none _) (by omega) (fun _ => ⟨rfl, rfl, hat⟩) htail

/-- A member is found with its key. -/
theorem ends_member {key : String} {value : Document} {members : List (String × Document)}
    (hvalue : Found value)
    (hopened : Opened indent .blockMappingStart tokens indents tokens' (indent :: outer))
    (htail : Scan.Continues indent (membersChars indent false members ++ tail)
      ((value.tokens (if isSimpleKey key then .afterKey else .afterMark)).reverse ++
        .value :: .scalar (presentation key) key :: .key :: tokens') (indent :: outer) result) :
    Opens (membersChars indent true ((key, value) :: members) ++ tail) ∧
      Scan.Ends (membersChars indent true ((key, value) :: members) ++ tail) indent tokens indents
        result := by
  rw [membersChars]
  simp only [if_true, List.nil_append]
  cases hsimple : isSimpleKey key with
  | true =>
      obtain ⟨first, more, hkey, hread⟩ := keyText (indent + 1) hsimple
      rw [hsimple] at htail
      have hends : endsWord (valueChars indent .afterKey value ++
          (membersChars indent false members ++ tail)) = true :=
        endsWord_valueChars indent .afterKey value
      simp only [if_true, hkey, List.cons_append, List.append_assoc]
      refine ⟨hread.opens _, Scan.Ends.of_key hread hends hopened fun place hplace hcolumn => ?_⟩
      exact hvalue.finds hplace (Idle.none _) hcolumn nofun htail
  | false =>
      rw [hsimple] at htail
      simp only [Bool.false_eq_true, if_false, List.cons_append, List.append_assoc] at htail ⊢
      refine ⟨.cons rfl rfl (by decide), Scan.Ends.of_token hopened.le fun place hplace hcolumn => ?_⟩
      have hbehind : (place.advance 1).rest = ' ' :: (scalarLine (indent + 2) key ++ (spaces indent ++
          ':' :: (valueChars indent .afterMark value ++
            (membersChars indent false members ++ tail)))) := by
        rw [Place.advance, hplace]
        rfl
      have hvalues : Scan.Ends (':' :: (valueChars indent .afterMark value ++
          (membersChars indent false members ++ tail))) indent
            (.scalar (presentation key) key :: .key :: tokens') (indent :: outer) result :=
        ends_value hvalue htail
      have hat : indent ≤ (place.advance 1).column := by
        rw [Place.advance, hcolumn]
        exact Nat.le_succ _
      refine ⟨_, Scan.token?_key hplace rfl (by rw [hcolumn]; exact hopened), ?_, ?_⟩
      · rw [hbehind]
      · exact Scan.finds_scalarLine hbehind (Idle.none _) hat
          (hvalues.continues (.cons rfl rfl (by decide)))

/-! ## Collections -/

theorem opens_items (item : Document) (items : List Document) :
    Opens (itemsChars indent true (item :: items) ++ tail) := by
  rw [itemsChars]
  exact .cons rfl rfl (by decide)

theorem ends_items {item : Document} {items : List Document} (hitem : Found item)
    (hopened : Opened indent .blockSequenceStart tokens indents tokens' (indent :: outer))
    (htail : Scan.Continues indent (itemsChars indent false items ++ tail)
      ((item.tokens .afterMark).reverse ++ .blockEntry :: tokens') (indent :: outer) result) :
    Scan.Ends (itemsChars indent true (item :: items) ++ tail) indent tokens indents result := by
  have hchars : itemsChars indent true (item :: items) ++ tail =
      '-' :: (valueChars indent .afterMark item ++ (itemsChars indent false items ++ tail)) := by
    simp only [itemsChars, if_true, List.nil_append, List.cons_append, List.append_assoc]
  rw [hchars]
  exact ends_item hitem hopened htail

/-- The items of a sequence are found one after another. -/
theorem continues_items {items : List Document} (hitems : ∀ item ∈ items, Found item)
    (htail : Scan.Continues indent tail ((tokensOfItems items).reverse ++ tokens) (indent :: outer)
      result) :
    Scan.Continues indent (itemsChars indent false items ++ tail) tokens (indent :: outer) result := by
  induction items generalizing tokens with
  | nil => exact htail
  | cons item items ih =>
      rw [itemsChars_false, List.append_assoc]
      refine (ends_items (hitems item List.mem_cons_self) (.already tokens outer) ?_).continues
        (opens_items item items)
      refine ih (fun other hother => hitems other (List.mem_cons_of_mem _ hother)) ?_
      rw [tokensOfItems] at htail
      simpa only [List.reverse_cons, List.reverse_append, List.append_assoc, List.cons_append,
        List.nil_append] using htail

/-- The members of a mapping are found one after another. -/
theorem continues_members {members : List (String × Document)}
    (hmembers : ∀ member ∈ members, Found member.2)
    (htail : Scan.Continues indent tail ((tokensOfMembers members).reverse ++ tokens) (indent :: outer)
      result) :
    Scan.Continues indent (membersChars indent false members ++ tail) tokens (indent :: outer)
      result := by
  induction members generalizing tokens with
  | nil => exact htail
  | cons member members ih =>
      obtain ⟨key, value⟩ := member
      have hrest : Scan.Continues indent (membersChars indent false members ++ tail)
          ((value.tokens (if isSimpleKey key then .afterKey else .afterMark)).reverse ++
            .value :: .scalar (presentation key) key :: .key :: tokens) (indent :: outer) result := by
        refine ih (fun other hother => hmembers other (List.mem_cons_of_mem _ hother)) ?_
        rw [tokensOfMembers] at htail
        simpa only [List.reverse_cons, List.reverse_append, List.append_assoc, List.cons_append,
          List.nil_append] using htail
      obtain ⟨hopens, hends⟩ := ends_member (hmembers _ List.mem_cons_self) (.already tokens outer) hrest
      rw [membersChars_false, List.append_assoc]
      exact hends.continues hopens

/-- A sequence with a block of its own. -/
theorem ends_sequence {item : Document} {items : List Document}
    (hitems : ∀ other ∈ item :: items, Found other) (hless : ∀ m ∈ indents.head?, m < n)
    (htail : Scan.Continues n tail ((tokensOfItems (item :: items)).reverse ++
      .blockSequenceStart :: tokens) (n :: indents) result) :
    Scan.Ends (itemsChars n true (item :: items) ++ tail) n tokens indents result := by
  refine ends_items (hitems item List.mem_cons_self) (.newly hless) ?_
  refine continues_items (fun other hother => hitems other (List.mem_cons_of_mem _ hother)) ?_
  rw [tokensOfItems] at htail
  simpa only [List.reverse_cons, List.reverse_append, List.append_assoc, List.cons_append,
    List.nil_append] using htail

/-- A mapping with a block of its own. -/
theorem ends_mapping {member : String × Document} {members : List (String × Document)}
    (hmembers : ∀ other ∈ member :: members, Found other.2) (hless : ∀ m ∈ indents.head?, m < n)
    (htail : Scan.Continues n tail ((tokensOfMembers (member :: members)).reverse ++
      .blockMappingStart :: tokens) (n :: indents) result) :
    Opens (membersChars n true (member :: members) ++ tail) ∧
      Scan.Ends (membersChars n true (member :: members) ++ tail) n tokens indents result := by
  obtain ⟨key, value⟩ := member
  refine ends_member (hmembers _ List.mem_cons_self) (.newly hless) ?_
  refine continues_members (fun other hother => hmembers other (List.mem_cons_of_mem _ hother)) ?_
  rw [tokensOfMembers] at htail
  simpa only [List.reverse_cons, List.reverse_append, List.append_assoc, List.cons_append,
    List.nil_append] using htail

/-- A block two columns to the right is closed at its end. -/
theorem continues_block {start : Token} {inner : List Token}
    (htail : Scan.Continues indent tail ((start :: (inner ++ [.blockEnd])).reverse ++ tokens)
      (indent :: outer) result) :
    Scan.Continues (indent + 2) tail (inner.reverse ++ start :: tokens)
      ((indent + 2) :: indent :: outer) result := by
  refine (Scan.Continues.close ?_ (Nat.lt_add_of_pos_right (Nat.succ_pos 1))).mono
    (Nat.le_add_right _ 2)
  simpa only [List.reverse_cons, List.reverse_append, List.append_assoc, List.cons_append,
    List.nil_append, List.reverse_nil] using htail

theorem lt_of_mem_head? : ∀ m ∈ (indent :: outer).head?, m < indent + 2 := by
  intro m hm
  cases hm
  omega

theorem le_of_mem_head? {column : Nat} (hindent : indent < column) :
    ∀ m ∈ (indent :: outer).head?, m ≤ column := by
  intro m hm
  cases hm
  exact Nat.le_of_lt hindent

theorem found_sequence {items : List Document} (hitems : ∀ item ∈ items, Found item) :
    Found (.sequence items) := by
  constructor
  intro opening indent tail tokens result outer p candidate keyAllowed hplace hidle hindent hmark htail
  have hindents : ∀ m ∈ (indent :: outer).head?, m ≤ p.column := le_of_mem_head? hindent
  cases items with
  | nil =>
      exact Scan.Brackets.square.finds_line hplace hidle hindents (List.cons_ne_nil _ _) htail
  | cons item items =>
      cases opening with
      | afterKey =>
          exact (continues_items hitems htail).finds hplace hidle
      | afterMark =>
          obtain ⟨rfl, rfl, hcolumn⟩ := hmark rfl
          have hends := ends_sequence hitems lt_of_mem_head? (continues_block htail)
          refine Scan.Ends.finds_space ?_ (opens_items item items) hplace
          rw [hcolumn]
          exact hends
      | afterTag =>
          have hends := ends_sequence hitems lt_of_mem_head? (continues_block htail)
          have hnext := hends.continues (opens_items item items)
          rw [← List.append_assoc, ← itemsChars_false] at hnext
          exact hnext.finds hplace hidle

theorem found_mapping {members : List (String × Document)}
    (hmembers : ∀ member ∈ members, Found member.2) : Found (.mapping members) := by
  constructor
  intro opening indent tail tokens result outer p candidate keyAllowed hplace hidle hindent hmark htail
  have hindents : ∀ m ∈ (indent :: outer).head?, m ≤ p.column := le_of_mem_head? hindent
  cases members with
  | nil =>
      exact Scan.Brackets.curly.finds_line hplace hidle hindents (List.cons_ne_nil _ _) htail
  | cons member members =>
      obtain ⟨hopens, hends⟩ := ends_mapping hmembers lt_of_mem_head? (continues_block htail)
      have hnext := hends.continues hopens
      rw [← List.append_assoc, ← membersChars_false] at hnext
      cases opening with
      | afterKey => exact hnext.finds hplace hidle
      | afterTag => exact hnext.finds hplace hidle
      | afterMark =>
          obtain ⟨rfl, rfl, hcolumn⟩ := hmark rfl
          refine Scan.Ends.finds_space ?_ hopens hplace
          rw [hcolumn]
          exact hends

/-- A variant is found with its tag. -/
theorem found_variant {name : String} {content : Document} (hsome : name ≠ "")
    (hname : name.toList.all isWordChar = true) (hcontent : Found content) :
    Found (.variant name content) := by
  constructor
  intro opening indent tail tokens result outer p candidate keyAllowed hplace hidle hindent hmark htail
  have hchars : name.toList ≠ [] := fun hempty => hsome (String.toList_eq_nil_iff.mp hempty)
  have hindents : ∀ m ∈ (indent :: outer).head?, m ≤ p.column := le_of_mem_head? hindent
  have hcons : p.rest = ' ' :: '!' :: (name.toList ++ (valueChars indent
      (if opening = .afterMark then .afterTag else opening) content ++ tail)) := by
    rw [hplace, valueChars]
    simp only [List.cons_append, List.append_assoc]
  refine Scan.finds_tag hchars (List.all_eq_true.mp hname) hcons (endsWord_valueChars _ _ _) hidle
    hindents (List.cons_ne_nil _ _) fun candidate' hidle' => ?_
  rw [String.ofList_toList]
  have hsplit : p.rest = (' ' :: '!' :: name.toList) ++ (valueChars indent
      (if opening = .afterMark then .afterTag else opening) content ++ tail) := hcons
  have hbehind : (p.advance (name.toList.length + 2)).rest = valueChars indent
      (if opening = .afterMark then .afterTag else opening) content ++ tail :=
    Place.rest_advance_append hsplit
  refine hcontent.finds hbehind hidle' ?_ ?_ ?_
  · exact Nat.lt_of_lt_of_le hindent (Nat.le_add_right _ _)
  · intro hopening
    cases opening <;> cases hopening
  · rw [Document.tokens] at htail
    simpa only [List.reverse_cons, List.append_assoc, List.cons_append, List.nil_append] using htail

mutual

/-- The scan finds every document in its text. -/
theorem found : ∀ document : Document, document.Proper → Found document
  | .null, _ => found_word (by decide) (by decide) (fun _ _ => rfl) fun _ => rfl
  | .bool false, _ => found_word (by decide) (by decide) (fun _ _ => rfl) fun _ => rfl
  | .bool true, _ => found_word (by decide) (by decide) (fun _ _ => rfl) fun _ => rfl
  | .integer value, _ =>
      found_word (plainAllowed_ofInt value) (ofInt_ne_nil value) (fun _ _ => rfl) fun _ => rfl
  | .float value, _ =>
      found_word (plainAllowed_text value).1 (plainAllowed_text value).2 (fun _ _ => rfl) fun _ => rfl
  | .text value, _ => found_text value
  | .sequence items, hproper => found_sequence (foundItems items hproper)
  | .mapping members, hproper => found_mapping (foundMembers members hproper)
  | .variant _ content, hproper =>
      found_variant hproper.1.1 hproper.1.2 (found content hproper.2.2)

theorem foundItems : ∀ items : List Document, Document.ProperItems items → ∀ item ∈ items, Found item
  | [], _, _, hother => nomatch hother
  | item :: items, hproper, other, hother => by
      cases hother with
      | head => exact found item hproper.1
      | tail _ hother => exact foundItems items hproper.2 other hother

theorem foundMembers : ∀ members : List (String × Document), Document.ProperMembers members →
    ∀ member ∈ members, Found member.2
  | [], _, _, hother => nomatch hother
  | (key, value) :: members, hproper, other, hother => by
      cases hother with
      | head => exact found value hproper.1
      | tail _ hother => exact foundMembers members hproper.2 other hother

end

end Yaml

end DesktopTrial
