import DesktopTrial.Proofs.Source.Denotation
import DesktopTrial.Proofs.Yaml.Scalar

/-!
# YAML nodes denote documents

The node of a document: every scalar in the style in which it is written, and a variant as
a local tag on its content.  A place in YAML text with this node answers a reader as the
document says.  A buffer has no room for a local tag, so only members without variants are
kept when they are set aside.
-/

namespace DesktopTrial

namespace Document

def isVariant : Document → Bool
  | .variant _ _ => true
  | _ => false

mutual

def depth : Document → Nat
  | .sequence items => depthOfItems items + 1
  | .mapping members => depthOfMembers members + 1
  | .variant _ content => content.depth
  | .null | .bool _ | .integer _ | .float _ | .text _ => 0

def depthOfItems : List Document → Nat
  | [] => 0
  | item :: rest => max item.depth (depthOfItems rest)

def depthOfMembers : List (String × Document) → Nat
  | [] => 0
  | (_, value) :: rest => max value.depth (depthOfMembers rest)

end

mutual

/-- Every variant has a name of word characters, and no two variants meet. -/
def Proper : Document → Prop
  | .sequence items => ProperItems items
  | .mapping members => ProperMembers members
  | .variant name content =>
      (name ≠ "" ∧ name.toList.all Yaml.isWordChar = true) ∧ content.isVariant = false ∧
        content.Proper
  | .null | .bool _ | .integer _ | .float _ | .text _ => True

def ProperItems : List Document → Prop
  | [] => True
  | item :: rest => item.Proper ∧ ProperItems rest

def ProperMembers : List (String × Document) → Prop
  | [] => True
  | (_, value) :: rest => value.Proper ∧ ProperMembers rest

end

end Document

namespace Yaml

def Node.withTag (tag : String) : Node → Node
  | .scalar _ style text => .scalar (some tag) style text
  | .sequence _ items => .sequence (some tag) items
  | .mapping _ members => .mapping (some tag) members
  | .alias slot => .alias slot

/-- The scalar of a text, in the style in which the text is written. -/
def textNode (text : String) : Node := .scalar none (presentation text) text

end Yaml

namespace Document

open Yaml (Node textNode)

mutual

/-- What the YAML text of the document denotes. -/
def node : Document → Node
  | .null => .scalar none .plain "null"
  | .bool value => .scalar none .plain (if value then "true" else "false")
  | .integer value => .scalar none .plain (Decimal.ofInt value)
  | .float value => .scalar none .plain (Yaml.numberLayout.text value)
  | .text value => textNode value
  | .sequence items => .sequence none (nodeOfItems items)
  | .mapping members => .mapping none (nodeOfMembers members)
  | .variant name content => content.node.withTag ("!" ++ name)

def nodeOfItems : List Document → List Node
  | [] => []
  | item :: rest => item.node :: nodeOfItems rest

def nodeOfMembers : List (String × Document) → List (Node × Node)
  | [] => []
  | (name, value) :: rest => (textNode name, value.node) :: nodeOfMembers rest

end

theorem nodeOfItems_eq_map (items : List Document) : nodeOfItems items = items.map node := by
  induction items with
  | nil => rfl
  | cons item items ih => rw [nodeOfItems, ih, List.map_cons]

theorem nodeOfMembers_eq_map (members : List (String × Document)) :
    nodeOfMembers members = members.map fun member => (textNode member.1, member.2.node) := by
  induction members with
  | nil => rfl
  | cons member members ih => rw [nodeOfMembers, ih, List.map_cons]

theorem depthOfItems_le_iff (items : List Document) (room : Nat) :
    depthOfItems items ≤ room ↔ ∀ item ∈ items, item.depth ≤ room := by
  induction items with
  | nil => simp [depthOfItems]
  | cons item items ih => rw [depthOfItems, Nat.max_le, ih, List.forall_mem_cons]

theorem depthOfMembers_le_iff (members : List (String × Document)) (room : Nat) :
    depthOfMembers members ≤ room ↔ ∀ member ∈ members, member.2.depth ≤ room := by
  induction members with
  | nil => simp [depthOfMembers]
  | cons member members ih => rw [depthOfMembers, Nat.max_le, ih, List.forall_mem_cons]

theorem properItems_iff (items : List Document) :
    ProperItems items ↔ ∀ item ∈ items, item.Proper := by
  induction items with
  | nil => simp [ProperItems]
  | cons item items ih => simp [ProperItems, ih]

theorem properMembers_iff (members : List (String × Document)) :
    ProperMembers members ↔ ∀ member ∈ members, member.2.Proper := by
  induction members with
  | nil => simp [ProperMembers]
  | cons member members ih => simp [ProperMembers, ih]

/-- Only a variant has a tag. -/
theorem tag_node {document : Document} (huntagged : document.isVariant = false) :
    document.node.tag = none := by
  cases document with
  | variant => cases huntagged
  | null | bool | integer | float | text | sequence | mapping => rfl

end Document

namespace Yaml

theorem localName?_withTag {name : String} (hname : name ≠ "") :
    localName? (some ("!" ++ name)) = some name := by
  have htag : ("!" ++ name).toList = '!' :: name.toList := by
    rw [String.toList_append]
    rfl
  rw [localName?, Option.map_some, htag]
  cases hchars : name.toList with
  | nil =>
      have hempty : name = "" := String.toList_inj.mp (by rw [hchars]; rfl)
      exact absurd hempty hname
  | cons c rest =>
      rw [← String.ofList_toList (s := name), hchars]
      rfl

/-- A local tag is none of the core schema. -/
theorem local_ne_core (name core : String) : "!" ++ name ≠ coreTag core := by
  intro hsame
  have hlocal : ("!" ++ name).toList.head? = some '!' := by
    rw [String.toList_append, List.head?_append]
    rfl
  have hcore : (coreTag core).toList.head? = some 't' := by
    unfold coreTag
    rw [String.toList_append]
    simp only [String.reduceToList, List.cons_append, List.head?_cons]
  rw [hsame, hcore] at hlocal
  cases hlocal

theorem Node.tag_withTag {node : Node} (tag : String) (hsolid : ∀ slot, node ≠ .alias slot) :
    (node.withTag tag).tag = some tag := by
  cases node with
  | scalar | sequence | mapping => rfl
  | «alias» slot => exact absurd rfl (hsolid slot)

theorem Node.untagged_withTag {node : Node} (tag : String) (huntagged : node.tag = none) :
    (node.withTag tag).untagged = node := by
  cases node with
  | scalar | sequence | mapping => cases huntagged; rfl
  | «alias» slot => rfl

/-- What is written for a document is never an alias. -/
theorem node_ne_alias : ∀ (document : Document) (slot : Nat), document.node ≠ .alias slot
  | .null, _, hsame | .bool _, _, hsame | .integer _, _, hsame | .float _, _, hsame
  | .text _, _, hsame | .sequence _, _, hsame | .mapping _, _, hsame => nomatch hsame
  | .variant name content, slot, hsame => by
      rw [Document.node] at hsame
      have hcontent := node_ne_alias content
      cases hnode : content.node with
      | scalar | sequence | mapping => rw [hnode] at hsame; cases hsame
      | «alias» other => exact hcontent other hnode

theorem follow?_node (document : Document) : follow? [] document.node = some document.node := by
  have hsolid := node_ne_alias document
  cases hnode : document.node with
  | scalar | sequence | mapping => rfl
  | «alias» slot => exact absurd hnode (hsolid slot)

/-! ## Aliases -/

theorem allowance?_scalar (room left : Nat) (tag : Option String) (style : Style) (text : String) :
    allowance? [] room left (.scalar tag style text) = some left := by
  cases room <;> rfl

theorem allowance?_withTag (room left : Nat) (tag : String) (node : Node) :
    allowance? [] room left (node.withTag tag) = allowance? [] room left node := by
  cases node <;> cases room <;> rfl

mutual

/-- Without aliases nothing of the allowance is spent. -/
theorem allowance?_node : ∀ {document : Document} {room : Nat} (left : Nat),
    document.depth ≤ room → allowance? [] room left document.node = some left
  | .null, room, left, _ | .bool _, room, left, _ | .integer _, room, left, _
  | .float _, room, left, _ | .text _, room, left, _ => allowance?_scalar room left _ _ _
  | .sequence items, 0, _, hdepth => absurd hdepth (Nat.not_succ_le_zero _)
  | .sequence items, room + 1, left, hdepth =>
      allowance?_items left (Nat.le_of_succ_le_succ hdepth)
  | .mapping members, 0, _, hdepth => absurd hdepth (Nat.not_succ_le_zero _)
  | .mapping members, room + 1, left, hdepth =>
      allowance?_members left (Nat.le_of_succ_le_succ hdepth)
  | .variant name content, room, left, hdepth => by
      rw [Document.node, allowance?_withTag]
      exact allowance?_node left hdepth

theorem allowance?_items : ∀ {items : List Document} {room : Nat} (left : Nat),
    Document.depthOfItems items ≤ room →
      (Document.nodeOfItems items).foldlM (allowance? [] room) left = some left
  | [], _, _, _ => rfl
  | item :: rest, room, left, hdepth => by
      rw [Document.depthOfItems, Nat.max_le] at hdepth
      rw [Document.nodeOfItems, List.foldlM_cons, allowance?_node left hdepth.1]
      exact allowance?_items left hdepth.2

theorem allowance?_members : ∀ {members : List (String × Document)} {room : Nat} (left : Nat),
    Document.depthOfMembers members ≤ room →
      (Document.nodeOfMembers members).foldlM (fun left member =>
        (allowance? [] room left member.1).bind fun left =>
          allowance? [] room left member.2) left = some left
  | [], _, _, _ => rfl
  | (name, value) :: rest, room, left, hdepth => by
      rw [Document.depthOfMembers, Nat.max_le] at hdepth
      simp only [Document.nodeOfMembers, List.foldlM_cons, textNode, allowance?_scalar,
        Option.bind_some, allowance?_node left hdepth.1]
      exact allowance?_members left hdepth.2

end

end Yaml

namespace Document

mutual

/-- The document can be set aside: it holds no variant, and its only numbers are whole
numbers of 64 bits. -/
def Kept : Document → Prop
  | .integer value => Json.leastInteger ≤ value ∧ value ≤ Json.greatestInteger
  | .float _ | .variant _ _ => False
  | .sequence items => KeptItems items
  | .mapping members => KeptMembers members
  | .null | .bool _ | .text _ => True

def KeptItems : List Document → Prop
  | [] => True
  | item :: rest => item.Kept ∧ KeptItems rest

def KeptMembers : List (String × Document) → Prop
  | [] => True
  | (_, value) :: rest => value.Kept ∧ KeptMembers rest

end

end Document

namespace Yaml

/-! ## Buffers -/

theorem buffer?_textNode (room : Nat) (text : String) :
    buffer? [] room (textNode text) = some (.text text) := by
  cases room <;> exact scalarBuffer?_text text

theorem mapM_cons_some {α β : Type} {f : α → Option β} {a : α} {b : β} {as : List α} {bs : List β}
    (hhead : f a = some b) (htail : as.mapM f = some bs) : (a :: as).mapM f = some (b :: bs) := by
  rw [List.mapM_cons, hhead, htail]
  rfl

mutual

theorem buffer?_node : ∀ {document : Document} {room : Nat}, document.Kept →
    document.depth ≤ room → buffer? [] room document.node = some document.buffer
  | .null, room, _, _ => by cases room <;> rfl
  | .bool value, room, _, _ => by cases room <;> cases value <;> rfl
  | .integer value, room, hkept, _ => by
      have hbuffer := scalarBuffer?_ofInt hkept.1 hkept.2
      cases room <;> exact hbuffer
  | .text value, room, _, _ => buffer?_textNode room value
  | .sequence items, 0, _, hdepth => absurd hdepth (Nat.not_succ_le_zero _)
  | .sequence items, room + 1, hkept, hdepth =>
      congrArg (Option.map Buffer.sequence)
        (buffer?_items hkept (Nat.le_of_succ_le_succ hdepth))
  | .mapping members, 0, _, hdepth => absurd hdepth (Nat.not_succ_le_zero _)
  | .mapping members, room + 1, hkept, hdepth =>
      congrArg (Option.map Buffer.mapping)
        (buffer?_members hkept (Nat.le_of_succ_le_succ hdepth))

theorem buffer?_items : ∀ {items : List Document} {room : Nat}, Document.KeptItems items →
    Document.depthOfItems items ≤ room →
      (Document.nodeOfItems items).mapM (buffer? [] room) = some (Document.bufferOfItems items)
  | [], _, _, _ => rfl
  | item :: rest, room, hkept, hdepth => by
      rw [Document.depthOfItems, Nat.max_le] at hdepth
      exact mapM_cons_some (buffer?_node hkept.1 hdepth.1) (buffer?_items hkept.2 hdepth.2)

theorem buffer?_members : ∀ {members : List (String × Document)} {room : Nat},
    Document.KeptMembers members → Document.depthOfMembers members ≤ room →
      ((Document.nodeOfMembers members).mapM fun member =>
        (buffer? [] room member.1).bind fun key =>
          (buffer? [] room member.2).map fun value => (key, value)) =
        some (Document.bufferOfMembers members)
  | [], _, _, _ => rfl
  | (name, value) :: rest, room, hkept, hdepth => by
      rw [Document.depthOfMembers, Nat.max_le] at hdepth
      refine mapM_cons_some ?_ (buffer?_members hkept.2 hdepth.2)
      rw [buffer?_textNode, Option.bind_some, buffer?_node hkept.1 hdepth.1, Option.map_some]

end

/-! ## Places in the text -/

namespace Cursor

/-- The place holds the node of the document, and there is room for its nesting. -/
structure Denotes (cursor : Cursor) (document : Document) : Prop where
  anchored : cursor.anchored = []
  node : cursor.node = document.node
  depth : document.depth ≤ cursor.room
  proper : document.Proper

variable {cursor : Cursor} {document : Document} {items : List Document}
  {members : List (String × Document)}

theorem Denotes.actual? (htree : Denotes cursor document) :
    cursor.actual? = some document.node := by
  rw [Cursor.actual?, htree.anchored, htree.node, follow?_node]

theorem Denotes.text? {text : String} (htree : Denotes cursor (.text text)) :
    cursor.text? = some text := by
  rw [Cursor.text?, scalarText?, htree.anchored, htree.node]
  rfl

theorem Denotes.isAffordable (htree : Denotes cursor document) : cursor.isAffordable = true := by
  rw [Cursor.isAffordable, htree.anchored, htree.node, allowance?_node _ htree.depth]
  rfl

theorem Denotes.child {part : Document} (htree : Denotes cursor document)
    (hdepth : part.depth + 1 ≤ cursor.room) (hproper : part.Proper) :
    Denotes (cursor.child part.node) part :=
  ⟨htree.anchored, rfl, Nat.le_sub_one_of_lt hdepth, hproper⟩

theorem Denotes.item (htree : Denotes cursor (.sequence items)) :
    ∀ item ∈ items, Denotes (cursor.child item.node) item := by
  intro item hitem
  have hdepth : Document.depthOfItems items ≤ cursor.room - 1 := Nat.le_sub_one_of_lt htree.depth
  have hitems := (Document.depthOfItems_le_iff items _).mp hdepth item hitem
  have hroom := htree.depth
  rw [Document.depth] at hroom
  exact htree.child (by omega) ((Document.properItems_iff items).mp htree.proper item hitem)

theorem Denotes.member (htree : Denotes cursor (.mapping members)) :
    ∀ member ∈ members, Denotes (cursor.child member.2.node) member.2 := by
  intro member hmember
  have hdepth : Document.depthOfMembers members ≤ cursor.room - 1 :=
    Nat.le_sub_one_of_lt htree.depth
  have hmembers := (Document.depthOfMembers_le_iff members _).mp hdepth member hmember
  have hroom := htree.depth
  rw [Document.depth] at hroom
  exact htree.child (by omega) ((Document.properMembers_iff members).mp htree.proper member hmember)

theorem Denotes.sequence? (htree : Denotes cursor (.sequence items)) :
    cursor.sequence? = some (items.map fun item => cursor.child item.node) := by
  obtain ⟨room, hroom⟩ : ∃ room, cursor.room = room + 1 :=
    Nat.exists_eq_succ_of_ne_zero (Nat.ne_of_gt (Nat.lt_of_lt_of_le (Nat.succ_pos _) htree.depth))
  rw [Cursor.sequence?, htree.actual?, hroom, Document.node, Document.nodeOfItems_eq_map]
  dsimp only
  rw [List.map_map]
  rfl

theorem members?_mapping (hanchored : cursor.anchored = [])
    (hnode : cursor.node = (Document.mapping members).node) (hroom : 0 < cursor.room) :
    cursor.members? = some (members.map fun member => (member.1, cursor.child member.2.node)) := by
  obtain ⟨room, hsucc⟩ : ∃ room, cursor.room = room + 1 :=
    Nat.exists_eq_succ_of_ne_zero (Nat.ne_of_gt hroom)
  have hactual : cursor.actual? = some (Document.mapping members).node := by
    rw [Cursor.actual?, hanchored, hnode, follow?_node]
  rw [Cursor.members?, hactual, hsucc, Document.node, Document.nodeOfMembers_eq_map]
  exact mapM_map_eq_some fun member _ => by rw [hanchored]; rfl

theorem Denotes.members? (htree : Denotes cursor (.mapping members)) :
    cursor.members? = some (members.map fun member => (member.1, cursor.child member.2.node)) :=
  members?_mapping htree.anchored htree.node (Nat.lt_of_lt_of_le (Nat.succ_pos _) htree.depth)

/-- The content of a variant stands behind its tag. -/
theorem Denotes.variant? {name : String} {content : Document}
    (htree : Denotes cursor (.variant name content)) :
    ∃ given, cursor.variant? = some (.name name, some given) ∧ Denotes given content := by
  obtain ⟨⟨hname, -⟩, huntagged, hproper⟩ := htree.proper
  have htag := Node.tag_withTag ("!" ++ name) (node_ne_alias content)
  have hcontent := Node.untagged_withTag ("!" ++ name) (Document.tag_node huntagged)
  refine ⟨{ cursor with node := content.node }, ?_, htree.anchored, rfl, htree.depth, hproper⟩
  rw [Cursor.variant?, htree.actual?, Document.node]
  dsimp only
  rw [htag, localName?_withTag hname]
  dsimp only
  rw [hcontent]

/-- The tag is found in front when no other member has its name, and the other members are
set aside. -/
theorem Denotes.tagged?_eq {tag kind : String}
    (htree : Denotes cursor (.mapping ((tag, .text kind) :: members)))
    (hothers : ∀ member ∈ members, member.1 ≠ tag) :
    ∃ room, Document.depthOfMembers members ≤ room ∧ cursor.tagged? tag =
      ((Document.nodeOfMembers members).mapM fun member =>
        (buffer? [] room member.1).bind fun key =>
          (buffer? [] room member.2).map fun value => (key, value)).map fun rest =>
            (.name kind, .mapping rest) := by
  obtain ⟨room, hroom⟩ : ∃ room, cursor.room = room + 1 :=
    Nat.exists_eq_succ_of_ne_zero (Nat.ne_of_gt (Nat.lt_of_lt_of_le (Nat.succ_pos _) htree.depth))
  have hdepth : Document.depthOfMembers members ≤ room := by
    have hdepth := htree.depth
    simp only [hroom, Document.depth, Document.depthOfMembers] at hdepth
    omega
  refine ⟨room, hdepth, ?_⟩
  have hname (member : Node × Node) (name : String) (hkey : member.1 = textNode name) :
      ((buffer? [] room member.1).bind Buffer.text? == some tag) = (name == tag) := by
    rw [hkey, buffer?_textNode]
    rfl
  have hnone : (Document.nodeOfMembers members).filter
      (fun member => (buffer? [] room member.1).bind Buffer.text? == some tag) = [] := by
    rw [Document.nodeOfMembers_eq_map, List.filter_eq_nil_iff]
    intro member hmember
    obtain ⟨written, hwritten, rfl⟩ := List.mem_map.mp hmember
    rw [hname _ written.1 rfl]
    simpa using hothers written hwritten
  have hall : (Document.nodeOfMembers members).filter
      (fun member => !((buffer? [] room member.1).bind Buffer.text? == some tag)) =
        Document.nodeOfMembers members := by
    rw [Document.nodeOfMembers_eq_map, List.filter_eq_self]
    intro member hmember
    obtain ⟨written, hwritten, rfl⟩ := List.mem_map.mp hmember
    rw [hname _ written.1 rfl]
    simpa using hothers written hwritten
  have hfirst := hname (textNode tag, textNode kind) tag rfl
  rw [beq_self_eq_true] at hfirst
  rw [Cursor.tagged?, htree.actual?, hroom, htree.anchored, Document.node, Document.nodeOfMembers]
  simp only [List.filter_cons, hfirst, hnone, hall]
  simp [localName?, Document.node, textNode, scalarText?, follow?]

theorem Denotes.tagged? {tag kind : String}
    (htree : Denotes cursor (.mapping ((tag, .text kind) :: members)))
    (hothers : ∀ member ∈ members, member.1 ≠ tag) (hkept : Document.KeptMembers members) :
    cursor.tagged? tag = some (.name kind, .mapping (Document.bufferOfMembers members)) := by
  obtain ⟨room, hdepth, htagged⟩ := htree.tagged?_eq hothers
  rw [htagged, buffer?_members hkept hdepth, Option.map_some]

end Cursor

open Cursor in
/-- A place in the text of a document denotes the document. -/
def denotation : Denotation Cursor where
  denotes := Denotes
  keeps := Document.KeptMembers
  text htree := htree.text?
  bool := by
    intro cursor value htree
    cases value <;> simp [Source.bool?, Cursor.typedText?, htree.actual?, Document.node, boolWord?]
  natural := by
    intro cursor value htree hvalue
    have htext : (Decimal.ofInt value).toList = Decimal.digits value := by
      simp [Decimal.ofInt]
    simp [Source.natural?, Cursor.typedText?, htree.actual?, Document.node, Document.natural, htext,
      unsigned?_digits, hvalue]
  nothing := by
    intro cursor htree
    simp [Source.option?, Cursor.option?, htree.actual?, Document.node, isNullWord]
  something := by
    intro cursor value htree
    simp only [Source.option?, Cursor.option?, htree.actual?, Document.node, textNode]
    cases hstyle : presentation value with
    | plain => simp [not_nothing_of_plain hstyle]
    | singleQuoted | doubleQuoted | literal | folded => rfl
  someVariant := by
    intro cursor name content htree
    have hsolid := node_ne_alias content
    simp only [Source.option?, Cursor.option?, htree.actual?, Document.node]
    cases hnode : content.node with
    | scalar tag style text =>
        cases style with
        | plain => simp only [Node.withTag, local_ne_core, if_false]
        | singleQuoted | doubleQuoted | literal | folded => rfl
    | sequence | mapping => rfl
    | «alias» slot => exact absurd hnode (hsolid slot)
  sequence htree := ⟨_, htree.sequence?, htree.item⟩
  mapping htree := by
    refine ⟨fun value => Cursor.child _ value.node, ?_, htree.member⟩
    simp [Source.fields?, htree.members?]
  bareVariant := by
    intro cursor name htree
    simp [Source.variant?, Cursor.variant?, htree.actual?, Document.node, textNode, Node.tag, localName?]
  variant htree := htree.variant?
  tagged := by
    intro cursor tag kind members htree hothers hkept
    have haffordable := htree.isAffordable
    simp [Source.tagged?, haffordable, htree.tagged? hothers hkept]

end Yaml
end DesktopTrial
