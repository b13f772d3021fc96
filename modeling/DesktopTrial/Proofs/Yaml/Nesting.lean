import DesktopTrial.Proofs.Yaml.Denotation

/-!
# Documents that nest too deeply

A reader enters only so many sequences and mappings.  Of a document that nests deeper nothing
is set aside and no free-form value is read, and a structure is refused for the field that
holds it.
-/

namespace DesktopTrial.Yaml

theorem mapM_cons_none_left {α β : Type} {f : α → Option β} {a : α} (as : List α)
    (hhead : f a = none) : (a :: as).mapM f = none := by
  rw [List.mapM_cons, hhead]
  rfl

theorem mapM_cons_none_right {α β : Type} {f : α → Option β} (a : α) {as : List α}
    (htail : as.mapM f = none) : (a :: as).mapM f = none := by
  rw [List.mapM_cons, htail]
  cases f a <;> rfl

/-- A list cannot be read when one of its items cannot. -/
theorem mapM_eq_none_of_mem {α β : Type} {f : α → Option β} {a : α} {as : List α} (hmem : a ∈ as)
    (hnone : f a = none) : as.mapM f = none := by
  induction as with
  | nil => cases hmem
  | cons b as ih =>
      cases hmem with
      | head => exact mapM_cons_none_left as hnone
      | tail _ hmem => exact mapM_cons_none_right b (ih hmem)

mutual

theorem allowance?_deep : ∀ {document : Document} {room : Nat} (left : Nat),
    room < document.depth → allowance? [] room left document.node = none
  | .null, _, _, hdeep | .bool _, _, _, hdeep | .integer _, _, _, hdeep | .float _, _, _, hdeep
  | .text _, _, _, hdeep => absurd hdeep (Nat.not_lt_zero _)
  | .sequence _, 0, _, _ => rfl
  | .sequence items, room + 1, left, hdeep =>
      allowance?_deepItems left (Nat.lt_of_succ_lt_succ hdeep)
  | .mapping _, 0, _, _ => rfl
  | .mapping members, room + 1, left, hdeep =>
      allowance?_deepMembers left (Nat.lt_of_succ_lt_succ hdeep)
  | .variant name content, room, left, hdeep => by
      rw [Document.node, allowance?_withTag]
      exact allowance?_deep left hdeep

theorem allowance?_deepItems : ∀ {items : List Document} {room : Nat} (left : Nat),
    room < Document.depthOfItems items →
      (Document.nodeOfItems items).foldlM (allowance? [] room) left = none
  | [], _, _, hdeep => absurd hdeep (Nat.not_lt_zero _)
  | item :: rest, room, left, hdeep => by
      rw [Document.nodeOfItems, List.foldlM_cons]
      by_cases hitem : room < item.depth
      · rw [allowance?_deep left hitem]
        rfl
      · have hrest : room < Document.depthOfItems rest := by
          rw [Document.depthOfItems] at hdeep
          omega
        rw [allowance?_node left (Nat.le_of_not_lt hitem)]
        exact allowance?_deepItems left hrest

theorem allowance?_deepMembers : ∀ {members : List (String × Document)} {room : Nat} (left : Nat),
    room < Document.depthOfMembers members →
      (Document.nodeOfMembers members).foldlM (fun left member =>
        (allowance? [] room left member.1).bind fun left =>
          allowance? [] room left member.2) left = none
  | [], _, _, hdeep => absurd hdeep (Nat.not_lt_zero _)
  | (name, value) :: rest, room, left, hdeep => by
      simp only [Document.nodeOfMembers, List.foldlM_cons, textNode, allowance?_scalar,
        Option.bind_some]
      by_cases hvalue : room < value.depth
      · rw [allowance?_deep left hvalue]
        rfl
      · have hrest : room < Document.depthOfMembers rest := by
          rw [Document.depthOfMembers] at hdeep
          omega
        rw [allowance?_node left (Nat.le_of_not_lt hvalue)]
        exact allowance?_deepMembers left hrest

end

namespace Cursor

variable {cursor : Cursor} {document : Document} {members : List (String × Document)}

/-- The place holds the node of the document, but there is no room for its nesting. -/
structure Overflows (cursor : Cursor) (document : Document) : Prop where
  anchored : cursor.anchored = []
  node : cursor.node = document.node
  depth : cursor.room < document.depth

theorem Overflows.isAffordable (htree : Overflows cursor document) :
    cursor.isAffordable = false := by
  rw [Cursor.isAffordable, htree.anchored, htree.node, allowance?_deep _ htree.depth]
  rfl

/-- Nothing that nests too deeply is set aside. -/
theorem Overflows.tagged? (htree : Overflows cursor document) (tag : String) :
    Source.tagged? tag cursor = none := by
  simp only [Source.tagged?, htree.isAffordable, Bool.false_eq_true, if_false]

theorem Overflows.json? (htree : Overflows cursor document) : Source.json? cursor = none := by
  simp only [Source.json?, htree.isAffordable, Bool.false_eq_true, if_false]

/-- A mapping that nests too deeply is not entered, or one of its members nests too deeply. -/
theorem Overflows.members? (htree : Overflows cursor (.mapping members)) :
    cursor.members? = none ∨
      0 < cursor.room ∧ cursor.members? =
        some (members.map fun member => (member.1, cursor.child member.2.node)) ∧
      ∃ member ∈ members, Overflows (cursor.child member.2.node) member.2 := by
  have hdepth := htree.depth
  rw [Document.depth] at hdepth
  cases hroom : cursor.room with
  | zero =>
      have hactual : cursor.actual? = some (Document.mapping members).node := by
        rw [Cursor.actual?, htree.anchored, htree.node, follow?_node]
      left
      rw [Cursor.members?, hactual, hroom]
      rfl
  | succ room =>
      have hdeep : ¬ ∀ member ∈ members, member.2.depth ≤ room := by
        rw [← Document.depthOfMembers_le_iff]
        omega
      simp only [Classical.not_forall, Nat.not_le, exists_prop] at hdeep
      obtain ⟨member, hmember, hless⟩ := hdeep
      have hchild : (cursor.child member.2.node).room = room := by rw [Cursor.child, hroom]; rfl
      have henters : 0 < cursor.room := by omega
      have hmembers := members?_mapping htree.anchored htree.node henters
      exact .inr ⟨Nat.succ_pos room, hmembers, member, hmember, htree.anchored, rfl,
        by rw [hchild]; exact hless⟩

/-- A dictionary with a value that nests too deeply is not read. -/
theorem Overflows.dictionary? (htree : Overflows cursor (.mapping members)) :
    Source.dictionary? cursor = none := by
  rcases htree.members? with hnone | ⟨-, hsome, member, hmember, hdeep⟩
  · simp only [Source.dictionary?, Source.members?, hnone]
  · have hread : (members.map fun member => (member.1, cursor.child member.2.node)).mapM
        (fun member => (Source.json? member.2).map fun value => (member.1, value)) = none :=
      mapM_eq_none_of_mem (List.mem_map_of_mem hmember) (by rw [hdeep.json?]; rfl)
    simp only [Source.dictionary?, Source.members?, hsome, hread, Option.map_none]

/-- A structure that nests too deeply is not entered, or one of its fields nests too deeply. -/
theorem Overflows.record (htree : Overflows cursor (.mapping members))
    (hdistinct : (members.map Prod.fst).Nodup) (count : Nat) :
    Source.record? count cursor = none ∨
      ∃ fields, Source.record? count cursor = some fields ∧
        ∃ member ∈ members, ∃ tree : Cursor, tree.room + 1 = cursor.room ∧
          Overflows tree member.2 ∧
          ∀ {α : Type} (place : Nat) (read : Cursor → Option α) (absent short : Option α),
            fields.field? place member.1 read absent short = read tree := by
  rcases htree.members? with hnone | ⟨hroom, hsome, member, hmember, hdeep⟩
  · left
    simp only [Source.record?, Source.fields?, hnone, Option.map_none]
  · right
    have hfields : Source.fields? cursor =
        some (.ofMembers (fun value => cursor.child value.node) members) := by
      simp [Source.fields?, hsome]
    have hchild : (cursor.child member.2.node).room + 1 = cursor.room := Nat.sub_add_cancel hroom
    refine ⟨_, by rw [Source.record?, hfields], member, hmember, _, hchild, hdeep, ?_⟩
    intro α place read absent short
    rw [Fields.field?_ofMembers, Fields.filter_eq_singleton hdistinct hmember]

end Cursor

end DesktopTrial.Yaml
