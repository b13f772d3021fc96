import DesktopTrial.Proofs.Locator.Data
import DesktopTrial.Proofs.Yaml.Nesting

/-!
# Locators in YAML text

In YAML text a variant with content is a local tag, and a buffer has no room for one.  A
selector is read from a buffer, so a scope that is picked by its place cannot be read back.
Nor can a selector be buffered that nests too deeply.
-/

namespace DesktopTrial

namespace Document

mutual

def hasVariant : Document → Bool
  | .variant _ _ => true
  | .sequence items => itemsHaveVariant items
  | .mapping members => membersHaveVariant members
  | .null | .bool _ | .integer _ | .float _ | .text _ => false

def itemsHaveVariant : List Document → Bool
  | [] => false
  | item :: rest => item.hasVariant || itemsHaveVariant rest

def membersHaveVariant : List (String × Document) → Bool
  | [] => false
  | (_, value) :: rest => value.hasVariant || membersHaveVariant rest

end

end Document

namespace Yaml

/-- A local tag is lost in a buffer, so that nothing is set aside. -/
theorem buffer?_withTag {name : String} (hname : name ≠ "") (room : Nat) {node : Node}
    (hsolid : ∀ slot, node ≠ .alias slot) : buffer? [] room (node.withTag ("!" ++ name)) = none := by
  have htag := localName?_withTag hname
  cases node with
  | scalar tag style text =>
      have hscalar : scalarBuffer? (some ("!" ++ name)) style text = none := by
        simp only [scalarBuffer?, local_ne_core, if_false, htag, Option.isSome_some, if_true]
      cases room <;> exact hscalar
  | sequence tag items =>
      cases room with
      | zero => rfl
      | succ room =>
          change (if (localName? (some ("!" ++ name))).isSome then none else _) = none
          rw [htag]
          rfl
  | mapping tag members =>
      cases room with
      | zero => rfl
      | succ room =>
          change (if (localName? (some ("!" ++ name))).isSome then none else _) = none
          rw [htag]
          rfl
  | «alias» slot => exact absurd rfl (hsolid slot)

mutual

theorem buffer?_of_hasVariant : ∀ {document : Document} (room : Nat), document.Proper →
    document.hasVariant = true → buffer? [] room document.node = none
  | .variant _ content, room, hproper, _ =>
      buffer?_withTag hproper.1.1 room (node_ne_alias content)
  | .sequence _, 0, _, _ => rfl
  | .sequence _, room + 1, hproper, hvariant =>
      congrArg (Option.map Buffer.sequence) (buffer?_of_itemsHaveVariant room hproper hvariant)
  | .mapping _, 0, _, _ => rfl
  | .mapping _, room + 1, hproper, hvariant =>
      congrArg (Option.map Buffer.mapping) (buffer?_of_membersHaveVariant room hproper hvariant)

theorem buffer?_of_itemsHaveVariant : ∀ {items : List Document} (room : Nat),
    Document.ProperItems items → Document.itemsHaveVariant items = true →
      (Document.nodeOfItems items).mapM (buffer? [] room) = none
  | item :: rest, room, hproper, hvariant => by
      rw [Document.itemsHaveVariant, Bool.or_eq_true] at hvariant
      rcases hvariant with hitem | hrest
      · exact mapM_cons_none_left _ (buffer?_of_hasVariant room hproper.1 hitem)
      · exact mapM_cons_none_right _ (buffer?_of_itemsHaveVariant room hproper.2 hrest)

theorem buffer?_of_membersHaveVariant : ∀ {members : List (String × Document)} (room : Nat),
    Document.ProperMembers members → Document.membersHaveVariant members = true →
      ((Document.nodeOfMembers members).mapM fun member =>
        (buffer? [] room member.1).bind fun key =>
          (buffer? [] room member.2).map fun value => (key, value)) = none
  | (name, value) :: rest, room, hproper, hvariant => by
      rw [Document.membersHaveVariant, Bool.or_eq_true] at hvariant
      rcases hvariant with hvalue | hrest
      · apply mapM_cons_none_left
        rw [buffer?_textNode, buffer?_of_hasVariant room hproper.1 hvalue]
        rfl
      · exact mapM_cons_none_right _ (buffer?_of_membersHaveVariant room hproper.2 hrest)

end

/-- The members beside a tag are not separated from it when one of them holds a variant. -/
theorem Cursor.Denotes.tagged?_of_hasVariant {cursor : Cursor} {tag kind : String}
    {members : List (String × Document)}
    (htree : Denotes cursor (.mapping ((tag, .text kind) :: members)))
    (hothers : ∀ member ∈ members, member.1 ≠ tag)
    (hvariant : Document.membersHaveVariant members = true) : Source.tagged? tag cursor = none := by
  obtain ⟨room, -, htagged⟩ := htree.tagged?_eq hothers
  have hmembers := buffer?_of_membersHaveVariant room htree.proper.2 hvariant
  simp only [Source.tagged?, htree.isAffordable, if_true, htagged, hmembers, Option.map_none]

end Yaml

/-! ## Scopes picked by their place -/

def Occurrence.isPlace : Occurrence → Bool
  | .nth _ => true
  | .first | .last => false

/-- Is some scope inside the selector picked by its place? -/
def Selector.picksScope : Selector → Bool
  | .textWithin scope occurrence _ _ => occurrence.any Occurrence.isPlace || scope.picksScope
  | .css _ | .role _ _ _ | .text _ _ | .cssWithText _ _ => false

theorem Occurrence.proper_document (occurrence : Occurrence) : occurrence.document.Proper := by
  cases occurrence with
  | nth place => exact ⟨⟨by decide, by decide⟩, rfl, trivial⟩
  | first | last => trivial

theorem proper_locatorDocument {selector : Document} (hselector : selector.Proper)
    (occurrence : Option Occurrence) : (locatorDocument selector occurrence).Proper := by
  cases occurrence with
  | none => exact ⟨hselector, trivial⟩
  | some occurrence => exact ⟨hselector, occurrence.proper_document, trivial⟩

theorem Selector.proper_document (selector : Selector) : selector.document.Proper := by
  induction selector with
  | css | role | text | cssWithText => simp [document, Document.Proper, Document.ProperMembers]
  | textWithin scope occurrence wanted exact ih =>
      exact ⟨trivial, proper_locatorDocument ih occurrence, trivial, trivial, trivial⟩

theorem Occurrence.hasVariant_document (occurrence : Occurrence) :
    occurrence.document.hasVariant = occurrence.isPlace := by
  cases occurrence <;> rfl

theorem Selector.hasVariant_document (selector : Selector) :
    selector.document.hasVariant = selector.picksScope := by
  induction selector with
  | css | role | text | cssWithText => rfl
  | textWithin scope occurrence wanted exact ih =>
      cases occurrence with
      | none =>
          simp [Selector.document, locatorDocument, Document.hasVariant,
            Document.membersHaveVariant, ih, picksScope]
      | some occurrence =>
          simp [Selector.document, locatorDocument, Document.hasVariant,
            Document.membersHaveVariant, ih, picksScope, occurrence.hasVariant_document,
            Bool.or_comm]

theorem Selector.membersHaveVariant (selector : Selector) :
    Document.membersHaveVariant selector.members = selector.picksScope := by
  rw [← selector.hasVariant_document, selector.document_eq]
  rfl

/-- Without such a scope a buffer keeps the selector. -/
theorem Selector.keptMembers {selector : Selector} (hscopes : selector.picksScope = false) :
    Document.KeptMembers selector.members := by
  induction selector with
  | css | role | text | cssWithText =>
      simp [members, Document.KeptMembers, Document.Kept]
  | textWithin scope occurrence wanted exact ih =>
      rw [picksScope, Bool.or_eq_false_iff] at hscopes
      have hscope : scope.document.Kept := by
        rw [scope.document_eq]
        exact ⟨trivial, ih hscopes.2⟩
      have hlocator : (locatorDocument scope.document occurrence).Kept := by
        cases occurrence with
        | none => exact ⟨hscope, trivial⟩
        | some occurrence =>
            cases occurrence with
            | nth place => cases hscopes.1
            | first | last => exact ⟨hscope, trivial, trivial⟩
      exact ⟨hlocator, trivial, trivial, trivial⟩

/-! ## Locators that are not read -/

/-- What stands beside the selector in a locator's document. -/
def occurrenceMembers : Option Occurrence → List (String × Document)
  | none => []
  | some occurrence => [("occurrence", occurrence.document)]

theorem locatorDocument_eq (selector : Document) (occurrence : Option Occurrence) :
    locatorDocument selector occurrence =
      .mapping (("selector", selector) :: occurrenceMembers occurrence) := by
  cases occurrence <;> rfl

theorem nodup_locatorMembers (selector : Document) (occurrence : Option Occurrence) :
    ((("selector", selector) :: occurrenceMembers occurrence).map Prod.fst).Nodup := by
  cases occurrence <;> simp [occurrenceMembers]

/-- Nothing nests beside the selector. -/
theorem depth_occurrenceMembers {occurrence : Option Occurrence} :
    ∀ member ∈ occurrenceMembers occurrence, member.2.depth = 0 := by
  intro member hmember
  cases occurrence with
  | none => cases hmember
  | some occurrence =>
      cases List.mem_singleton.mp hmember
      cases occurrence <;> rfl

/-- A locator whose selector has a scope that is picked by its place is not read. -/
theorem Locator.read?_of_picksScope {locator : Locator} {cursor : Yaml.Cursor}
    (hscopes : locator.selector.picksScope = true)
    (htree : cursor.Denotes locator.document) : read? cursor = none := by
  have hselector (tree : Yaml.Cursor) (hdenotes : tree.Denotes locator.selector.document) :
      Selector.read? tree = none := by
    rw [locator.selector.document_eq] at hdenotes
    rw [Selector.read?, hdenotes.tagged?_of_hasVariant locator.selector.by_not_mem
      (by rw [locator.selector.membersHaveVariant, hscopes])]
  rw [Locator.document, locatorDocument_eq] at htree
  obtain ⟨fields, hfields, hoffers⟩ := Yaml.denotation.record htree (nodup_locatorMembers _ _) 2
  have hnone : fields.required? 0 "selector" Selector.read? = none :=
    hoffers.given hselector List.mem_cons_self
  simp only [read?, readLocator?, hfields, hnone]

/-- A locator that nests too deeply is not read. -/
theorem Locator.read?_of_overflows {locator : Locator} {cursor : Yaml.Cursor}
    (htree : cursor.Overflows locator.document) : read? cursor = none := by
  rw [Locator.document, locatorDocument_eq] at htree
  rcases htree.record (nodup_locatorMembers _ _) 2 with hnone | ⟨fields, hfields, member, hmember,
    tree, -, hdeep, hfield⟩
  · rw [read?, readLocator?, hnone]
  rcases List.mem_cons.mp hmember with rfl | hbeside
  · have hselector : fields.required? 0 "selector" Selector.read? = none := by
      rw [Fields.required?, hfield, Selector.read?, hdeep.tagged?]
    simp only [read?, readLocator?, hfields, hselector]
  · have hdepth := hdeep.depth
    rw [depth_occurrenceMembers member hbeside] at hdepth
    exact absurd hdepth (Nat.not_lt_zero _)

end DesktopTrial
