import DesktopTrial.Proofs.Yaml.Scanned
import DesktopTrial.Yaml.Reader

/-!
# Documents are composed from their tokens

The nodes that the tokens of a document denote are those of the document.  Each token gives
the reader two steps, which are enough for the collections that it opens.
-/

namespace DesktopTrial.Yaml

open Document (tokensOfItems tokensOfMembers nodeOfItems nodeOfMembers)

variable {c : Composer} {token : Token} {more rest : List Token} {position : Position} {fuel : Nat}

/-! ## Properties and contents -/

def startsContent : Token → Bool
  | .scalar _ _ | .flowSequenceStart | .flowMappingStart | .blockSequenceStart
  | .blockMappingStart | .blockEntry => true
  | _ => false

/-- Reads the content of a node behind its properties. -/
def readContent? (fuel : Nat) (position : Position) (properties : Properties) (tag : Option String)
    (c : Composer) : Composed Node :=
  match c.tokens with
  | .blockEntry :: _ =>
      if position.indentless then
        (readIndentless? fuel c).map fun (items, c) => (.sequence tag items, c)
      else readNode?.blankOr properties tag c
  | .scalar style text :: rest => some (.scalar tag style text, { c with tokens := rest })
  | .flowSequenceStart :: rest =>
      (readFlowItems? fuel true { c with tokens := rest }).map
        fun (items, c) => (.sequence tag items, c)
  | .flowMappingStart :: rest =>
      (readFlowMembers? fuel true { c with tokens := rest }).map
        fun (members, c) => (.mapping tag members, c)
  | .blockSequenceStart :: rest =>
      if position.block then
        (readBlockItems? fuel { c with tokens := rest }).map
          fun (items, c) => (.sequence tag items, c)
      else readNode?.blankOr properties tag c
  | .blockMappingStart :: rest =>
      if position.block then
        (readBlockMembers? fuel { c with tokens := rest }).map
          fun (members, c) => (.mapping tag members, c)
      else readNode?.blankOr properties tag c
  | _ => readNode?.blankOr properties tag c

theorem map_complete_none (result : Composed Node) :
    (result.map fun read => (read.1, read.2.complete none read.1)) = result :=
  Option.map_id'

theorem readNode?_content (htokens : c.tokens = token :: more)
    (hcontent : startsContent token = true) :
    readNode? (fuel + 1) position c = readContent? fuel position ⟨none, none⟩ none c := by
  have hproperties : c.properties = (⟨none, none⟩, c) := by
    rw [Composer.properties, htokens]
    cases token <;> first | rfl | cases hcontent
  rw [readNode?, readContent?]
  simp only [hproperties, Composer.fullTag?, Composer.begin, htokens]
  cases token with
  | scalar | flowSequenceStart | flowMappingStart | blockSequenceStart | blockMappingStart
  | blockEntry => simp only [map_complete_none]
  | _ => cases hcontent

/-- A composer that knows the handle of local tags. -/
def Composer.KnowsTags (c : Composer) : Prop := c.handles.lookup "!" = some "!"

theorem readNode?_tag {name : String} (htags : c.KnowsTags)
    (htokens : c.tokens = .tag "!" name :: token :: more) (hcontent : startsContent token = true) :
    readNode? (fuel + 1) position c = readContent? fuel position ⟨none, some ("!", name)⟩
      (some ("!" ++ name)) { c with tokens := token :: more } := by
  have hproperties : c.properties =
      (⟨none, some ("!", name)⟩, { c with tokens := token :: more }) := by
    rw [Composer.properties, htokens]
    cases token <;> first | rfl | cases hcontent
  have hfull : Composer.fullTag? (some ("!", name)) { c with tokens := token :: more } =
      some (some ("!" ++ name)) := by
    have hhandle : ("!" : String).isEmpty = false := rfl
    rw [Composer.KnowsTags] at htags
    simp only [Composer.fullTag?, hhandle, Bool.false_eq_true, if_false, htags, Option.map_some]
  rw [readNode?, readContent?]
  simp only [hproperties, hfull, Composer.begin, htokens]
  cases token with
  | scalar | flowSequenceStart | flowMappingStart | blockSequenceStart | blockMappingStart
  | blockEntry => simp only [map_complete_none]
  | _ => cases hcontent

/-! ## First tokens -/

/-- A value begins with a tag or with its content; only behind a key it begins with an item. -/
theorem tokens_head (opening : Opening) (document : Document) :
    ∃ token more, document.tokens opening = token :: more ∧
      (startsContent token = true ∨ ∃ name, token = .tag "!" name) ∧
      (opening ≠ .afterKey → token ≠ .blockEntry) ∧
      (document.isVariant = false → startsContent token = true) := by
  cases document with
  | sequence items =>
      cases items <;> cases opening <;>
        exact ⟨_, _, rfl, .inl rfl, by simp, fun _ => rfl⟩
  | mapping members => cases members <;> exact ⟨_, _, rfl, .inl rfl, nofun, fun _ => rfl⟩
  | variant name content => exact ⟨_, _, rfl, .inr ⟨name, rfl⟩, nofun, nofun⟩
  | null | bool | integer | float | text => exact ⟨_, _, rfl, .inl rfl, nofun, fun _ => rfl⟩

theorem readOptional?_of_head {marks : List Token} (htokens : c.tokens = token :: more)
    (hmarks : token ∉ marks) :
    readOptional? (fuel + 1) position marks c = readNode? fuel position c := by
  have hother : c.atAny marks = false := by
    rw [Composer.atAny, htokens]
    simpa using hmarks
  rw [readOptional?, hother, if_neg Bool.false_ne_true]

/-! ## Nodes -/

def Node.retag : Option String → Node → Node
  | none, node => node
  | some tag, node => node.withTag tag

/-- One step less is enough where an item cannot come first. -/
def Opening.spare : Opening → Nat
  | .afterKey => 0
  | _ => 1

theorem Opening.spare_le (opening : Opening) : opening.spare ≤ 1 := by cases opening <;> decide

theorem Composer.tokens_drop (htokens : c.tokens = token :: rest) : c.drop.tokens = rest := by
  rw [Composer.drop, htokens]
  rfl

structure ContentComposes (document : Document) : Prop where
  reads : ∀ {opening : Opening} {position : Position} {properties : Properties} {tag : Option String}
    {c : Composer} {rest : List Token} {fuel : Nat}, c.KnowsTags →
    c.tokens = document.tokens opening ++ rest → position.block = true →
    (opening = .afterKey → position.indentless = true ∧ rest.head? ≠ some .blockEntry) →
    2 * (document.tokens opening).length ≤ fuel + 1 + opening.spare →
    readContent? fuel position properties tag c =
      some (document.node.retag tag, { c with tokens := rest })

structure Composes (document : Document) : Prop where
  reads : ∀ {opening : Opening} {position : Position} {c : Composer} {rest : List Token} {fuel : Nat},
    c.KnowsTags → c.tokens = document.tokens opening ++ rest → position.block = true →
    (opening = .afterKey → position.indentless = true ∧ rest.head? ≠ some .blockEntry) →
    2 * (document.tokens opening).length ≤ fuel + opening.spare →
    readNode? fuel position c = some (document.node, { c with tokens := rest })

theorem ContentComposes.composes {document : Document} (hcontent : ContentComposes document)
    (hvariant : document.isVariant = false) : Composes document := by
  constructor
  intro opening position c rest fuel htags htokens hblock hopening hfuel
  obtain ⟨token, more, hhead, -, -, hstarts⟩ := tokens_head opening document
  have hspare := opening.spare_le
  obtain ⟨fuel, rfl⟩ : ∃ m, fuel = m + 1 := by
    rw [hhead, List.length_cons] at hfuel
    exact ⟨fuel - 1, by omega⟩
  have hcons : c.tokens = token :: (more ++ rest) := by rw [htokens, hhead]; rfl
  rw [readNode?_content hcons (hstarts hvariant)]
  exact hcontent.reads htags htokens hblock hopening hfuel

/-- A tag in front of its content is read as the tag of the node. -/
theorem ContentComposes.composes_variant {name : String} {content : Document}
    (hcontent : ContentComposes content) (hvariant : content.isVariant = false) :
    Composes (.variant name content) := by
  constructor
  intro opening position c rest fuel htags htokens hblock hopening hfuel
  rw [Document.tokens] at htokens hfuel
  obtain ⟨token, more, hhead, -, -, hstarts⟩ :=
    tokens_head (if opening = .afterMark then .afterTag else opening) content
  have hspare := opening.spare_le
  rw [List.length_cons] at hfuel
  obtain ⟨fuel, rfl⟩ : ∃ m, fuel = m + 1 := ⟨fuel - 1, by omega⟩
  have hcons : c.tokens = .tag "!" name :: token :: (more ++ rest) := by
    rw [htokens, hhead]
    rfl
  have hbehind : token :: (more ++ rest) =
      content.tokens (if opening = .afterMark then .afterTag else opening) ++ rest := by
    rw [hhead]
    rfl
  rw [readNode?_tag htags hcons (hstarts hvariant)]
  refine hcontent.reads htags hbehind hblock ?_ (by omega)
  intro hafter
  cases opening with
  | afterKey => exact hopening rfl
  | afterMark | afterTag => cases hafter

/-- A scalar is read in one step. -/
theorem contentComposes_scalar {document : Document} {style : Style} {text : String}
    (htokens : ∀ opening, document.tokens opening = [.scalar style text])
    (hnode : document.node = .scalar none style text) : ContentComposes document := by
  constructor
  intro opening position properties tag c rest fuel _ hplace _ _ _
  rw [htokens] at hplace
  rw [readContent?, hplace, hnode]
  cases tag <;> rfl

theorem composes_text (text : String) : Composes (.text text) :=
  (contentComposes_scalar (fun _ => rfl) rfl).composes rfl

/-! ## Collections -/

/-- The head of a value is no mark that stands for a value that is left out. -/
theorem head_not_mem {opening : Opening} {document : Document}
    (htokens : document.tokens opening = token :: more) :
    token ≠ .key ∧ token ≠ .value ∧ token ≠ .blockEnd ∧
      (opening ≠ .afterKey → token ≠ .blockEntry) := by
  obtain ⟨token', more', hhead, hstarts, hentry, -⟩ := tokens_head opening document
  rw [htokens] at hhead
  cases hhead
  rcases hstarts with hstarts | ⟨name, rfl⟩
  · refine ⟨?_, ?_, ?_, hentry⟩ <;>
    · rintro rfl
      cases hstarts
  · exact ⟨nofun, nofun, nofun, hentry⟩

/-- A value that may be left out is read when it is there. -/
theorem Composes.readOptional? {document : Document} (hcomposes : Composes document)
    {opening : Opening} {indentless : Bool} {marks : List Token} (htags : c.KnowsTags)
    (htokens : c.tokens = document.tokens opening ++ rest)
    (hopening : opening = .afterKey → indentless = true ∧ rest.head? ≠ some .blockEntry)
    (hmarks : ∀ mark ∈ marks, mark = .key ∨ mark = .value ∨ mark = .blockEnd ∨
      opening ≠ .afterKey ∧ mark = .blockEntry)
    (hfuel : 2 * (document.tokens opening).length < fuel + opening.spare) :
    Yaml.readOptional? fuel ⟨true, indentless⟩ marks c =
      some (document.node, { c with tokens := rest }) := by
  obtain ⟨token, more, hhead, -⟩ := tokens_head opening document
  obtain ⟨hkey, hvalue, hend, hentry⟩ := head_not_mem hhead
  have hspare := opening.spare_le
  obtain ⟨fuel, rfl⟩ : ∃ m, fuel = m + 1 := by
    rw [hhead, List.length_cons] at hfuel
    exact ⟨fuel - 1, by omega⟩
  have hcons : c.tokens = token :: (more ++ rest) := by rw [htokens, hhead]; rfl
  have hother : token ∉ marks := by
    intro hmem
    rcases hmarks token hmem with hmark | hmark | hmark | ⟨hopening, hmark⟩
    · exact hkey hmark
    · exact hvalue hmark
    · exact hend hmark
    · exact hentry hopening hmark
  rw [readOptional?_of_head hcons hother]
  exact hcomposes.reads htags htokens rfl hopening (by omega)

/-- An item is read behind its mark. -/
theorem Composes.readItem? {item : Document} (hcomposes : Composes item) {marks : List Token}
    (htags : c.KnowsTags) (htokens : c.tokens = .blockEntry :: (item.tokens .afterMark ++ rest))
    (hmarks : ∀ mark ∈ marks, mark = .key ∨ mark = .value ∨ mark = .blockEnd ∨ mark = .blockEntry)
    (hfuel : 2 * (item.tokens .afterMark).length ≤ fuel) :
    Yaml.readOptional? fuel ⟨true, false⟩ marks c.drop =
      some (item.node, { c.drop with tokens := rest }) :=
  hcomposes.readOptional? htags (Composer.tokens_drop htokens) nofun
    (fun mark hmark => (hmarks mark hmark).imp_right (Or.imp_right (Or.imp_right fun hentry =>
      ⟨nofun, hentry⟩))) (Nat.lt_succ_of_le hfuel)

/-- The items of a block are read up to its end. -/
theorem readBlockItems?_tokens {items : List Document} (hitems : ∀ item ∈ items, Composes item)
    (htags : c.KnowsTags) (htokens : c.tokens = tokensOfItems items ++ .blockEnd :: rest)
    (hfuel : 2 * (tokensOfItems items).length < fuel) :
    readBlockItems? fuel c = some (nodeOfItems items, { c with tokens := rest }) := by
  induction items generalizing c fuel with
  | nil =>
      obtain ⟨fuel, rfl⟩ : ∃ m, fuel = m + 1 := ⟨fuel - 1, by omega⟩
      have hcons : c.tokens = .blockEnd :: rest := htokens
      rw [readBlockItems?, Composer.peek, hcons]
      simp only [List.head?_cons, Composer.drop, hcons, List.drop_succ_cons, List.drop_zero,
        nodeOfItems]
  | cons item items ih =>
      rw [tokensOfItems, List.length_cons, List.length_append] at hfuel
      obtain ⟨fuel, rfl⟩ : ∃ m, fuel = m + 1 := ⟨fuel - 1, by omega⟩
      have hcons : c.tokens = .blockEntry :: (item.tokens .afterMark ++
          (tokensOfItems items ++ .blockEnd :: rest)) := by
        rw [htokens, tokensOfItems, List.cons_append, List.append_assoc]
      have hread : readOptional? fuel ⟨true, false⟩ [.blockEntry, .blockEnd] c.drop = some (item.node,
          { c.drop with tokens := tokensOfItems items ++ .blockEnd :: rest }) :=
        (hitems item List.mem_cons_self).readItem? htags hcons (by simp) (by omega)
      have hrest : readBlockItems? fuel { c.drop with tokens := tokensOfItems items ++
          .blockEnd :: rest } = some (nodeOfItems items, { c.drop with tokens := rest }) :=
        ih (fun other hother => hitems other (List.mem_cons_of_mem _ hother)) htags rfl (by omega)
      rw [readBlockItems?, Composer.peek, hcons]
      simp only [List.head?_cons, hread, hrest, Option.map_some, nodeOfItems]
      rfl

/-- The items of a sequence in the column of its key are read up to the next key. -/
theorem readIndentless?_tokens {items : List Document} (hitems : ∀ item ∈ items, Composes item)
    (htags : c.KnowsTags) (htokens : c.tokens = tokensOfItems items ++ rest)
    (hrest : rest.head? ≠ some .blockEntry) (hsome : 0 < fuel)
    (hfuel : 2 * (tokensOfItems items).length ≤ fuel + 1) :
    readIndentless? fuel c = some (nodeOfItems items, { c with tokens := rest }) := by
  induction items generalizing c fuel with
  | nil =>
      obtain ⟨fuel, rfl⟩ : ∃ m, fuel = m + 1 := ⟨fuel - 1, by omega⟩
      have hcons : c.tokens = rest := htokens
      have hsame : { c with tokens := rest } = c := by rw [← hcons]
      rw [readIndentless?, Composer.peek, hcons, hsame]
      split
      · rename_i hhead
        exact absurd hhead hrest
      · rfl
  | cons item items ih =>
      rw [tokensOfItems, List.length_cons, List.length_append] at hfuel
      obtain ⟨token, more, hhead, -⟩ := tokens_head .afterMark item
      have hpositive : 0 < (item.tokens .afterMark).length := by
        rw [hhead]
        exact Nat.succ_pos _
      obtain ⟨fuel, rfl⟩ : ∃ m, fuel = m + 2 := ⟨fuel - 2, by omega⟩
      have hcons : c.tokens = .blockEntry :: (item.tokens .afterMark ++
          (tokensOfItems items ++ rest)) := by
        rw [htokens, tokensOfItems, List.cons_append, List.append_assoc]
      have hread : readOptional? (fuel + 1) ⟨true, false⟩ [.blockEntry, .key, .value, .blockEnd]
          c.drop = some (item.node, { c.drop with tokens := tokensOfItems items ++ rest }) :=
        (hitems item List.mem_cons_self).readItem? htags hcons (by simp) (by omega)
      have hnext : readIndentless? (fuel + 1) { c.drop with tokens := tokensOfItems items ++ rest } =
          some (nodeOfItems items, { c.drop with tokens := rest }) :=
        ih (fun other hother => hitems other (List.mem_cons_of_mem _ hother)) htags rfl
          (Nat.succ_pos _) (by omega)
      rw [readIndentless?, Composer.peek, hcons]
      simp only [List.head?_cons, hread, hnext, Option.map_some, nodeOfItems]
      rfl

/-- The members of a block are read up to its end. -/
theorem readBlockMembers?_tokens {members : List (String × Document)}
    (hmembers : ∀ member ∈ members, Composes member.2)
    (htags : c.KnowsTags) (htokens : c.tokens = tokensOfMembers members ++ .blockEnd :: rest)
    (hfuel : 2 * (tokensOfMembers members).length < fuel) :
    readBlockMembers? fuel c = some (nodeOfMembers members, { c with tokens := rest }) := by
  induction members generalizing c fuel with
  | nil =>
      obtain ⟨fuel, rfl⟩ : ∃ m, fuel = m + 1 := ⟨fuel - 1, by omega⟩
      have hcons : c.tokens = .blockEnd :: rest := htokens
      rw [readBlockMembers?, Composer.peek, hcons]
      simp only [List.head?_cons, Composer.drop, hcons, List.drop_succ_cons, List.drop_zero,
        nodeOfMembers]
  | cons member members ih =>
      obtain ⟨key, value⟩ := member
      rw [tokensOfMembers] at htokens hfuel
      generalize (if isSimpleKey key then Opening.afterKey else .afterMark) = opening at htokens hfuel
      rw [List.length_cons, List.length_cons, List.length_cons, List.length_append] at hfuel
      obtain ⟨fuel, rfl⟩ : ∃ m, fuel = m + 1 := ⟨fuel - 1, by omega⟩
      obtain ⟨behind, hbehind⟩ : ∃ behind, behind = tokensOfMembers members ++ .blockEnd :: rest :=
        ⟨_, rfl⟩
      have hcons : c.tokens = .key :: .scalar (presentation key) key :: .value ::
          (value.tokens opening ++ behind) := by
        rw [htokens, hbehind]
        simp only [List.cons_append, List.append_assoc]
      have hdrop : c.drop.tokens =
          (Document.text key).tokens .afterMark ++ .value :: (value.tokens opening ++ behind) :=
        Composer.tokens_drop hcons
      have hhead : behind.head? ≠ some .blockEntry := by
        rw [hbehind]
        cases members <;> simp [tokensOfMembers]
      have hlength : ((Document.text key).tokens .afterMark).length = 1 := rfl
      have hcomposes : Composes value := hmembers (key, value) List.mem_cons_self
      have hkey : readOptional? fuel ⟨true, true⟩ [.key, .value, .blockEnd] c.drop =
          some (textNode key, { c.drop with tokens := .value :: (value.tokens opening ++ behind) }) :=
        (composes_text key).readOptional? htags hdrop (by simp) (by simp) (by rw [hlength]; omega)
      have hvalue : readOptional? fuel ⟨true, true⟩ [.key, .value, .blockEnd]
          { c.drop with tokens := value.tokens opening ++ behind } =
            some (value.node, { c.drop with tokens := behind }) :=
        hcomposes.readOptional? htags rfl (fun _ => ⟨rfl, hhead⟩) (by simp) (by omega)
      have hnext : readBlockMembers? fuel { c.drop with tokens := behind } =
          some (nodeOfMembers members, { c.drop with tokens := rest }) :=
        ih (fun other hother => hmembers other (List.mem_cons_of_mem _ hother)) htags hbehind (by omega)
      have hmark : Composer.drop { c.drop with tokens := .value :: (value.tokens opening ++ behind) } =
          { c.drop with tokens := value.tokens opening ++ behind } := rfl
      rw [readBlockMembers?, Composer.peek, hcons]
      simp only [List.head?_cons, hkey, Composer.peek, hmark, hvalue, hnext, Option.map_some,
        nodeOfMembers]
      rfl

/-- A block of items is read between its marks. -/
theorem readContent?_items {items : List Document} (hitems : ∀ item ∈ items, Composes item)
    {position : Position} {properties : Properties} {tag : Option String}
    (htags : c.KnowsTags)
    (htokens : c.tokens = .blockSequenceStart :: (tokensOfItems items ++ [.blockEnd]) ++ rest)
    (hblock : position.block = true) (hfuel : 2 * (tokensOfItems items).length < fuel) :
    readContent? fuel position properties tag c =
      some (.sequence tag (nodeOfItems items), { c with tokens := rest }) := by
  have hread : readBlockItems? fuel { c with tokens := tokensOfItems items ++ .blockEnd :: rest } =
      some (nodeOfItems items, { c with tokens := rest }) :=
    readBlockItems?_tokens hitems htags rfl hfuel
  rw [List.cons_append, List.append_assoc] at htokens
  rw [readContent?, htokens]
  simp only [hblock, if_true, List.singleton_append, hread, Option.map_some]

theorem contentComposes_sequence {items : List Document} (hitems : ∀ item ∈ items, Composes item) :
    ContentComposes (.sequence items) := by
  constructor
  intro opening position properties tag c rest fuel htags htokens hblock hopening hfuel
  have hretag (items : List Node) : (Node.sequence none items).retag tag = .sequence tag items := by
    cases tag <;> rfl
  have hspare := opening.spare_le
  rw [Document.node, hretag]
  cases items with
  | nil =>
      have hcons : c.tokens = .flowSequenceStart :: .flowSequenceEnd :: rest := htokens
      have hlength : ((Document.sequence []).tokens opening).length = 2 := rfl
      rw [hlength] at hfuel
      obtain ⟨fuel, rfl⟩ : ∃ m, fuel = m + 1 := ⟨fuel - 1, by omega⟩
      rw [readContent?, hcons]
      simp only [readFlowItems?, Composer.peek, List.head?_cons, Option.map_some]
      rfl
  | cons item items =>
      cases opening with
      | afterKey =>
          have hcons : c.tokens = tokensOfItems (item :: items) ++ rest := htokens
          obtain ⟨hindentless, hhead⟩ := hopening rfl
          have hmany : 2 * (tokensOfItems (item :: items)).length ≤ fuel + 1 := hfuel
          have hsome : 0 < fuel := by
            rw [tokensOfItems, List.length_cons] at hmany
            omega
          have hread := readIndentless?_tokens hitems htags hcons hhead hsome hmany
          rw [tokensOfItems, List.cons_append] at hcons
          rw [readContent?, hcons]
          simp only [hindentless, if_true, hread, Option.map_some]
      | afterMark | afterTag =>
          refine readContent?_items hitems htags htokens hblock ?_
          rw [Document.tokens, List.length_cons, List.length_append, List.length_singleton] at hfuel
          · omega
          · simp

theorem contentComposes_mapping {members : List (String × Document)}
    (hmembers : ∀ member ∈ members, Composes member.2) : ContentComposes (.mapping members) := by
  constructor
  intro opening position properties tag c rest fuel htags htokens hblock hopening hfuel
  have hretag (members : List (Node × Node)) :
      (Node.mapping none members).retag tag = .mapping tag members := by
    cases tag <;> rfl
  have hspare := opening.spare_le
  rw [Document.node, hretag]
  cases members with
  | nil =>
      have hcons : c.tokens = .flowMappingStart :: .flowMappingEnd :: rest := htokens
      have hlength : ((Document.mapping []).tokens opening).length = 2 := rfl
      rw [hlength] at hfuel
      obtain ⟨fuel, rfl⟩ : ∃ m, fuel = m + 1 := ⟨fuel - 1, by omega⟩
      rw [readContent?, hcons]
      simp only [readFlowMembers?, Composer.peek, List.head?_cons, Option.map_some]
      rfl
  | cons member members =>
      have hmany : 2 * (tokensOfMembers (member :: members)).length < fuel := by
        rw [Document.tokens, List.length_cons, List.length_append, List.length_singleton] at hfuel
        omega
      have hread : readBlockMembers? fuel { c with tokens := tokensOfMembers (member :: members) ++
          .blockEnd :: rest } = some (nodeOfMembers (member :: members), { c with tokens := rest }) :=
        readBlockMembers?_tokens hmembers htags rfl hmany
      rw [Document.tokens, List.cons_append, List.append_assoc] at htokens
      rw [readContent?, htokens]
      simp only [hblock, if_true, List.singleton_append, hread, Option.map_some]

/-! ## Documents -/

mutual

/-- The content of a document that is no variant is read from its tokens. -/
theorem contentComposes : ∀ document : Document, document.isVariant = false → document.Proper →
    ContentComposes document
  | .null, _, _ => contentComposes_scalar (fun _ => rfl) rfl
  | .bool _, _, _ => contentComposes_scalar (fun _ => rfl) rfl
  | .integer _, _, _ => contentComposes_scalar (fun _ => rfl) rfl
  | .float _, _, _ => contentComposes_scalar (fun _ => rfl) rfl
  | .text _, _, _ => contentComposes_scalar (fun _ => rfl) rfl
  | .sequence items, _, hproper => contentComposes_sequence (composesItems items hproper)
  | .mapping members, _, hproper => contentComposes_mapping (composesMembers members hproper)

/-- Every document is read from its tokens. -/
theorem composes : ∀ document : Document, document.Proper → Composes document
  | .null, _ => (contentComposes_scalar (fun _ => rfl) rfl).composes rfl
  | .bool _, _ => (contentComposes_scalar (fun _ => rfl) rfl).composes rfl
  | .integer _, _ => (contentComposes_scalar (fun _ => rfl) rfl).composes rfl
  | .float _, _ => (contentComposes_scalar (fun _ => rfl) rfl).composes rfl
  | .text _, _ => (contentComposes_scalar (fun _ => rfl) rfl).composes rfl
  | .sequence items, hproper =>
      (contentComposes_sequence (composesItems items hproper)).composes rfl
  | .mapping members, hproper =>
      (contentComposes_mapping (composesMembers members hproper)).composes rfl
  | .variant _ content, hproper =>
      (contentComposes content hproper.2.1 hproper.2.2).composes_variant hproper.2.1

theorem composesItems : ∀ items : List Document, Document.ProperItems items →
    ∀ item ∈ items, Composes item
  | [], _, _, hother => nomatch hother
  | item :: items, hproper, other, hother => by
      cases hother with
      | head => exact composes item hproper.1
      | tail _ hother => exact composesItems items hproper.2 other hother

theorem composesMembers : ∀ members : List (String × Document), Document.ProperMembers members →
    ∀ member ∈ members, Composes member.2
  | [], _, _, hother => nomatch hother
  | (key, value) :: members, hproper, other, hother => by
      cases hother with
      | head => exact composes value hproper.1
      | tail _ hother => exact composesMembers members hproper.2 other hother

end

/-- The text of a mapping is read as the node of the mapping. -/
theorem read?_print {member : String × Document} {members : List (String × Document)}
    (hproper : Document.ProperMembers (member :: members)) :
    read? (print (.mapping (member :: members))) =
      some ⟨(Document.mapping (member :: members)).node, []⟩ := by
  obtain ⟨tokens, htokens⟩ : ∃ tokens,
      tokens = (Document.mapping (member :: members)).tokens .afterTag := ⟨_, rfl⟩
  have hhead : ∃ more, tokens = .blockMappingStart :: more := ⟨_, htokens⟩
  have htags : (Composer.start [] tokens).KnowsTags := rfl
  have hplace : (Composer.start [] tokens).tokens =
      (Document.mapping (member :: members)).tokens .afterTag ++ [] := by
    rw [List.append_nil]
    exact htokens
  have hfuel : 2 * ((Document.mapping (member :: members)).tokens .afterTag).length ≤
      2 * tokens.length + 2 + Opening.afterTag.spare := by
    rw [htokens]
    omega
  have hread : readNode? (2 * tokens.length + 2) ⟨true, false⟩ (Composer.start [] tokens) =
      some ((Document.mapping (member :: members)).node,
        { Composer.start [] tokens with tokens := [] }) :=
    (composes (.mapping (member :: members)) hproper).reads htags hplace rfl nofun hfuel
  rw [read?, scan?_print hproper, ← htokens, Option.bind_some]
  obtain ⟨more, rfl⟩ := hhead
  rw [ofTokens?]
  · simp only [endsDocument, Bool.false_eq_true, if_false, hread]
    rfl
  · nofun
  · nofun

end DesktopTrial.Yaml
