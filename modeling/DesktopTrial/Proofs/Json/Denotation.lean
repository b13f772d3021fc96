import DesktopTrial.Proofs.Json.Text
import DesktopTrial.Proofs.Source.Denotation
import DesktopTrial.Source.JsonText

/-!
# JSON text denotes documents

A place in the JSON text of a document answers a reader as the document says, as long as
the document nests no deeper than may still be entered.  What is set aside in a buffer is
kept when its only numbers are whole numbers of 64 bits.
-/

namespace DesktopTrial

namespace Json

mutual

/-- The greatest number of arrays and objects one inside another. -/
def depth : Json → Nat
  | .array items => depthOfItems items + 1
  | .object members => depthOfMembers members + 1
  | .null | .bool _ | .integer _ | .float _ | .string _ => 0

def depthOfItems : List Json → Nat
  | [] => 0
  | item :: rest => max item.depth (depthOfItems rest)

def depthOfMembers : List (String × Json) → Nat
  | [] => 0
  | (_, value) :: rest => max value.depth (depthOfMembers rest)

end

end Json

namespace Document

theorem itemsToJson_eq_map (items : List Document) : itemsToJson items = items.map toJson := by
  induction items with
  | nil => rfl
  | cons item items ih => rw [itemsToJson, ih, List.map_cons]

theorem membersToJson_eq_map (members : List (String × Document)) :
    membersToJson members = members.map fun member => (member.1, member.2.toJson) := by
  induction members with
  | nil => rfl
  | cons member members ih => rw [membersToJson, ih, List.map_cons]

mutual

/-- The only numbers in the document are whole numbers of 64 bits. -/
def Whole : Document → Prop
  | .integer value => Json.leastInteger ≤ value ∧ value ≤ Json.greatestInteger
  | .float _ => False
  | .sequence items => WholeItems items
  | .mapping members => WholeMembers members
  | .variant _ content => content.Whole
  | .null | .bool _ | .text _ => True

def WholeItems : List Document → Prop
  | [] => True
  | item :: rest => item.Whole ∧ WholeItems rest

def WholeMembers : List (String × Document) → Prop
  | [] => True
  | (_, value) :: rest => value.Whole ∧ WholeMembers rest

end

theorem wholeItems_iff (items : List Document) : WholeItems items ↔ ∀ item ∈ items, item.Whole := by
  induction items with
  | nil => simp [WholeItems]
  | cons item items ih => simp [WholeItems, ih]

mutual

theorem Whole.toJson : ∀ {document : Document}, document.Whole → document.toJson.Whole
  | .null, _ | .bool _, _ | .text _, _ => trivial
  | .integer _, hwhole => hwhole
  | .sequence _, hwhole => WholeItems.toJson hwhole
  | .mapping _, hwhole => WholeMembers.toJson hwhole
  | .variant _ _, hwhole => ⟨Whole.toJson hwhole, trivial⟩

theorem WholeItems.toJson : ∀ {items : List Document}, WholeItems items →
    Json.WholeItems (itemsToJson items)
  | [], _ => trivial
  | _ :: _, hwhole => ⟨hwhole.1.toJson, WholeItems.toJson hwhole.2⟩

theorem WholeMembers.toJson : ∀ {members : List (String × Document)}, WholeMembers members →
    Json.WholeMembers (membersToJson members)
  | [], _ => trivial
  | (_, _) :: _, hwhole => ⟨hwhole.1.toJson, WholeMembers.toJson hwhole.2⟩

end

end Document

namespace Json

theorem writtenItems_toJson (items : List Document) :
    writtenItems (Document.itemsToJson items) = items.map fun item => item.toJson.written := by
  induction items with
  | nil => rfl
  | cons item items ih => rw [Document.itemsToJson, writtenItems, ih, List.map_cons]

theorem writtenMembers_toJson (members : List (String × Document)) :
    writtenMembers (Document.membersToJson members) =
      members.map fun member => (some member.1, member.2.toJson.written) := by
  induction members with
  | nil => rfl
  | cons member members ih => rw [Document.membersToJson, writtenMembers, ih, List.map_cons]

theorem depthOfItems_le_iff (items : List Json) (room : Nat) :
    depthOfItems items ≤ room ↔ ∀ item ∈ items, item.depth ≤ room := by
  induction items with
  | nil => simp [depthOfItems]
  | cons item items ih => rw [depthOfItems, Nat.max_le, ih, List.forall_mem_cons]

theorem depthOfMembers_le_iff (members : List (String × Json)) (room : Nat) :
    depthOfMembers members ≤ room ↔ ∀ member ∈ members, member.2.depth ≤ room := by
  induction members with
  | nil => simp [depthOfMembers]
  | cons member members ih => rw [depthOfMembers, Nat.max_le, ih, List.forall_mem_cons]

/-! ## Buffers -/

mutual

/-- A document whose only numbers are whole is set aside in a buffer as it is. -/
theorem buffer?_written : ∀ {document : Document} {room : Nat}, document.Whole →
    document.toJson.depth ≤ room → document.toJson.written.buffer? room = some document.buffer
  | .null, _, _, _ => rfl
  | .bool _, _, _, _ => rfl
  | .integer value, _, hwhole, _ => by
      simp only [Document.toJson, written, Written.buffer?,
        NumberText.integer?_ofInt hwhole.1 hwhole.2, Document.buffer]
  | .text _, _, _, _ => rfl
  | .sequence items, 0, _, hdepth => absurd hdepth (Nat.not_succ_le_zero _)
  | .sequence items, room + 1, hwhole, hdepth =>
      congrArg (Option.map Buffer.sequence)
        (bufferItems?_written hwhole (Nat.le_of_succ_le_succ hdepth))
  | .mapping members, 0, _, hdepth => absurd hdepth (Nat.not_succ_le_zero _)
  | .mapping members, room + 1, hwhole, hdepth =>
      congrArg (Option.map Buffer.mapping)
        (bufferMembers?_written hwhole (Nat.le_of_succ_le_succ hdepth))
  | .variant name content, 0, _, hdepth => absurd hdepth (Nat.not_succ_le_zero _)
  | .variant name content, room + 1, hwhole, hdepth => by
      have hdepth : content.toJson.depth ≤ room := by
        simpa [Document.toJson, depth, depthOfMembers] using hdepth
      have hcontent : content.toJson.written.buffer? room = some content.buffer :=
        buffer?_written hwhole hdepth
      simp only [Document.toJson, written, writtenMembers, Written.buffer?, bufferMembers?,
        hcontent, Document.buffer, Option.map_some]

theorem bufferItems?_written : ∀ {items : List Document} {room : Nat},
    Document.WholeItems items → depthOfItems (Document.itemsToJson items) ≤ room →
      bufferItems? room (writtenItems (Document.itemsToJson items)) =
        some (Document.bufferOfItems items)
  | [], _, _, _ => rfl
  | item :: rest, room, hwhole, hdepth => by
      rw [Document.itemsToJson, depthOfItems, Nat.max_le] at hdepth
      rw [Document.itemsToJson, writtenItems, bufferItems?, buffer?_written hwhole.1 hdepth.1,
        bufferItems?_written hwhole.2 hdepth.2, Document.bufferOfItems]

theorem bufferMembers?_written : ∀ {members : List (String × Document)} {room : Nat},
    Document.WholeMembers members → depthOfMembers (Document.membersToJson members) ≤ room →
      bufferMembers? room (writtenMembers (Document.membersToJson members)) =
        some (Document.bufferOfMembers members)
  | [], _, _, _ => rfl
  | (name, value) :: rest, room, hwhole, hdepth => by
      rw [Document.membersToJson, depthOfMembers, Nat.max_le] at hdepth
      simp only [Document.membersToJson, writtenMembers, bufferMembers?,
        buffer?_written hwhole.1 hdepth.1, bufferMembers?_written hwhole.2 hdepth.2,
        Document.bufferOfMembers]

end

/-! ## Places in the text -/

namespace Cursor

/-- The place of a part of the text, with room to enter `room` levels. -/
def ofDocument (room : Nat) (document : Document) : Cursor := ⟨room, document.toJson.written⟩

/-- The place holds the text of the document, and there is room for its nesting. -/
def Denotes (cursor : Cursor) (document : Document) : Prop :=
  cursor = ofDocument cursor.room document ∧ document.toJson.depth ≤ cursor.room

theorem Denotes.ofDocument {document : Document} {room : Nat}
    (hdepth : document.toJson.depth ≤ room) : Denotes (.ofDocument room document) document :=
  ⟨rfl, hdepth⟩

variable {cursor : Cursor} {items : List Document} {members : List (String × Document)}

/-- What nests leaves room for what is inside. -/
theorem Denotes.nested {document : Document} {depth : Nat} (htree : Denotes cursor document)
    (hnested : document.toJson.depth = depth + 1) :
    ∃ room, cursor = Cursor.ofDocument (room + 1) document ∧ depth ≤ room := by
  obtain ⟨hcursor, hdepth⟩ := htree
  rw [hnested] at hdepth
  obtain ⟨room, hroom⟩ : ∃ room, cursor.room = room + 1 :=
    Nat.exists_eq_add_one.mpr (Nat.lt_of_lt_of_le (Nat.succ_pos depth) hdepth)
  rw [hroom] at hcursor hdepth
  exact ⟨room, hcursor, Nat.le_of_succ_le_succ hdepth⟩

theorem Denotes.sequence (htree : Denotes cursor (.sequence items)) :
    ∃ room, cursor = Cursor.ofDocument (room + 1) (.sequence items) ∧
      ∀ item ∈ items, Denotes (.ofDocument room item) item := by
  obtain ⟨room, hcursor, hdepth⟩ := htree.nested rfl
  refine ⟨room, hcursor, fun item hitem => .ofDocument ?_⟩
  have hall := (depthOfItems_le_iff _ _).mp hdepth
  rw [Document.itemsToJson_eq_map] at hall
  exact hall _ (List.mem_map_of_mem hitem)

theorem Denotes.mapping (htree : Denotes cursor (.mapping members)) :
    ∃ room, cursor = Cursor.ofDocument (room + 1) (.mapping members) ∧
      ∀ member ∈ members, Denotes (.ofDocument room member.2) member.2 := by
  obtain ⟨room, hcursor, hdepth⟩ := htree.nested rfl
  refine ⟨room, hcursor, fun member hmember => .ofDocument ?_⟩
  have hall := (depthOfMembers_le_iff _ _).mp hdepth
  rw [Document.membersToJson_eq_map] at hall
  exact hall (member.1, member.2.toJson) (List.mem_map.mpr ⟨member, hmember, rfl⟩)

/-- In JSON a variant is a mapping with one member. -/
theorem Denotes.variant {name : String} {content : Document}
    (htree : Denotes cursor (.variant name content)) : Denotes cursor (.mapping [(name, content)]) :=
  htree

theorem items?_ofDocument (room : Nat) (items : List Document) :
    (ofDocument (room + 1) (.sequence items)).items? = some (items.map (ofDocument room)) := by
  have hitems : (ofDocument (room + 1) (.sequence items)).items? =
      some ((writtenItems (Document.itemsToJson items)).map fun item => ⟨room, item⟩) := rfl
  rw [hitems, writtenItems_toJson, List.map_map]
  rfl

theorem members?_ofDocument (room : Nat) (members : List (String × Document)) :
    (ofDocument (room + 1) (.mapping members)).members? =
      some (members.map fun member => (member.1, ofDocument room member.2)) := by
  have hmembers : (ofDocument (room + 1) (.mapping members)).members? =
      (writtenMembers (Document.membersToJson members)).mapM fun member =>
        member.1.map fun name => (name, ⟨room, member.2⟩) := rfl
  rw [hmembers, writtenMembers_toJson]
  exact mapM_map_eq_some fun member _ => rfl

/-- The tag is found in front when no other member has its name. -/
theorem tagged?_ofDocument {tag kind : String} {members : List (String × Document)} {room : Nat}
    (hothers : ∀ member ∈ members, member.1 ≠ tag) (hwhole : Document.WholeMembers members)
    (hdepth : depthOfMembers (Document.membersToJson members) ≤ room) :
    (ofDocument (room + 1) (.mapping ((tag, .text kind) :: members))).tagged? tag =
      some (.name kind, .mapping (Document.bufferOfMembers members)) := by
  have hnone : (writtenMembers (Document.membersToJson members)).filter
      (fun member => member.1 == some tag) = [] := by
    rw [writtenMembers_toJson, List.filter_eq_nil_iff]
    intro member hmember
    obtain ⟨written, hwritten, rfl⟩ := List.mem_map.mp hmember
    simpa using hothers written hwritten
  have hall : (writtenMembers (Document.membersToJson members)).filter
      (fun member => member.1 != some tag) = writtenMembers (Document.membersToJson members) := by
    rw [writtenMembers_toJson, List.filter_eq_self]
    intro member hmember
    obtain ⟨written, hwritten, rfl⟩ := List.mem_map.mp hmember
    simpa using hothers written hwritten
  simp only [tagged?, ofDocument, Document.toJson, Json.written, Document.membersToJson,
    writtenMembers, List.filter_cons, hnone, hall]
  simp [key?, text?, bufferMembers?_written hwhole hdepth]

end Cursor

open Cursor in
/-- A place in the text of a document denotes the document. -/
def denotation : Denotation Cursor where
  denotes := Denotes
  keeps := Document.WholeMembers
  text := by
    rintro ⟨room, written⟩ value ⟨hcursor, -⟩
    cases hcursor
    rfl
  bool := by
    rintro ⟨room, written⟩ value ⟨hcursor, -⟩
    cases hcursor
    rfl
  natural := by
    rintro ⟨room, written⟩ value ⟨hcursor, -⟩ hvalue
    cases hcursor
    have hinteger : (NumberText.ofInt value).integer? = some (value : Int) :=
      NumberText.integer?_ofInt (by simp only [leastInteger, Int.ofNat_eq_natCast]; omega)
        (by simp only [greatestInteger, Int.ofNat_eq_natCast]; omega)
    simp only [Source.natural?, Document.natural, Document.toJson, Json.written, hinteger]
    simp
  nothing := by
    rintro ⟨room, written⟩ ⟨hcursor, -⟩
    cases hcursor
    rfl
  something := by
    rintro ⟨room, written⟩ value ⟨hcursor, -⟩
    cases hcursor
    rfl
  someVariant := by
    rintro ⟨room, written⟩ name content ⟨hcursor, -⟩
    cases hcursor
    rfl
  sequence := by
    rintro cursor items htree
    obtain ⟨room, rfl, hitems⟩ := htree.sequence
    exact ⟨ofDocument room, items?_ofDocument room items, hitems⟩
  mapping := by
    rintro cursor members htree
    obtain ⟨room, rfl, hmembers⟩ := htree.mapping
    refine ⟨ofDocument room, ?_, hmembers⟩
    have hfields : Source.fields? (ofDocument (room + 1) (.mapping members)) =
        (ofDocument (room + 1) (.mapping members)).members?.map fun members =>
          .named (members.map fun member => (.name member.1, member.2)) := rfl
    rw [hfields, members?_ofDocument, Option.map_some, List.map_map]
    rfl
  bareVariant := by
    rintro ⟨room, written⟩ name ⟨hcursor, -⟩
    cases hcursor
    rfl
  variant := by
    rintro cursor name content htree
    obtain ⟨room, rfl, hmembers⟩ := htree.variant.mapping
    exact ⟨ofDocument room content, rfl, hmembers (name, content) List.mem_cons_self⟩
  tagged := by
    rintro cursor tag kind members htree hothers hwhole
    obtain ⟨room, rfl, hmembers⟩ := htree.mapping
    refine tagged?_ofDocument hothers hwhole ?_
    rw [depthOfMembers_le_iff, Document.membersToJson_eq_map]
    intro member hmember
    obtain ⟨written, hwritten, rfl⟩ := List.mem_map.mp hmember
    exact (hmembers written (List.mem_cons_of_mem _ hwritten)).2

/-- A value is read from the text of its document when it is read from every tree that
denotes the document. -/
theorem decode?_denoted {α : Type} {read : Cursor → Option α} {document : Document} {value : α}
    {text : String} (htext : Json.read? text = some document.toJson.written)
    (hdepth : document.toJson.depth ≤ nestingLimit)
    (hread : ∀ tree, denotation.denotes tree document → read tree = some value) :
    decode? read text = some value := by
  rw [decode?, htext]
  exact hread _ (.ofDocument hdepth)

end Json
end DesktopTrial
