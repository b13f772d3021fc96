import DesktopTrial.Proofs.Yaml.Denotation
import DesktopTrial.Proofs.Yaml.Number

/-!
# Free-form values in YAML text

A free-form value is read from the node of its document.  A dictionary of such values is
read member by member, and its order is found again.
-/

namespace DesktopTrial

/-! ## Dictionaries -/

section Dictionary

variable {α : Type} {key : String} {value : α} {entries pairs : List (String × α)}

/-- A key behind all others is put at the end. -/
theorem insertEntry_of_last (hlast : ∀ entry ∈ entries, entry.1 < key) :
    insertEntry key value entries = entries ++ [(key, value)] := by
  induction entries with
  | nil => rfl
  | cons entry entries ih =>
      have hless := hlast entry List.mem_cons_self
      rw [insertEntry, if_neg (String.lt_asymm hless),
        if_neg fun (heq : key = entry.1) => String.lt_irrefl key (heq ▸ hless),
        ih fun other hother => hlast other (List.mem_cons_of_mem _ hother), List.cons_append]

theorem Dictionary.entries_insertAll (d : Dictionary α) (hascending : Ascending (d.entries ++ pairs)) :
    (d.insertAll pairs).entries = d.entries ++ pairs := by
  induction pairs generalizing d with
  | nil => exact (List.append_nil _).symm
  | cons pair pairs ih =>
      have hlast : ∀ entry ∈ d.entries, entry.1 < pair.1 := fun entry hentry =>
        (List.pairwise_append.mp hascending).2.2 entry hentry pair List.mem_cons_self
      have hinsert : (d.insert pair.1 pair.2).entries = d.entries ++ [pair] :=
        insertEntry_of_last hlast
      have hrest := ih (d.insert pair.1 pair.2) (by
        rw [hinsert, List.append_assoc]
        exact hascending)
      rw [hinsert, List.append_assoc] at hrest
      exact hrest

/-- Pairs with ascending keys are kept as they are. -/
theorem Dictionary.entries_ofList (hascending : Ascending pairs) :
    (Dictionary.ofList pairs).entries = pairs :=
  Dictionary.empty.entries_insertAll hascending

theorem Dictionary.ofList_entries (d : Dictionary α) : Dictionary.ofList d.entries = d := by
  obtain ⟨entries, hascending⟩ := d
  have hentries := Dictionary.entries_ofList hascending
  cases hlist : Dictionary.ofList entries
  rw [hlist] at hentries
  cases hentries
  rfl

end Dictionary

/-! ## Free-form values -/

namespace Json

mutual

/-- Whole numbers have 64 bits, other numbers are finite, and the members of an object stand
in ascending order. -/
def Regular : Json → Prop
  | .integer value => leastInteger ≤ value ∧ value ≤ greatestInteger
  | .float value => value.isFinite = true
  | .array items => RegularItems items
  | .object members => Ascending members ∧ RegularMembers members
  | .null | .bool _ | .string _ => True

def RegularItems : List Json → Prop
  | [] => True
  | item :: rest => item.Regular ∧ RegularItems rest

def RegularMembers : List (String × Json) → Prop
  | [] => True
  | (_, value) :: rest => value.Regular ∧ RegularMembers rest

end

theorem regularMembers_iff (members : List (String × Json)) :
    RegularMembers members ↔ ∀ member ∈ members, member.2.Regular := by
  induction members with
  | nil => simp [RegularMembers]
  | cons member members ih => simp [RegularMembers, ih]

end Json

namespace Document

theorem membersOfJson_eq_map (members : List (String × Json)) :
    membersOfJson members = members.map fun member => (member.1, ofJson member.2) := by
  induction members with
  | nil => rfl
  | cons member members ih => rw [membersOfJson, ih, List.map_cons]

mutual

/-- A free-form value has no variants. -/
theorem proper_ofJson : ∀ value : Json, (ofJson value).Proper
  | .null | .bool _ | .integer _ | .float _ | .string _ => trivial
  | .array items => proper_itemsOfJson items
  | .object members => proper_membersOfJson members

theorem proper_itemsOfJson : ∀ items : List Json, ProperItems (itemsOfJson items)
  | [] => trivial
  | item :: rest => ⟨proper_ofJson item, proper_itemsOfJson rest⟩

theorem proper_membersOfJson : ∀ members : List (String × Json),
    ProperMembers (membersOfJson members)
  | [] => trivial
  | (_, value) :: rest => ⟨proper_ofJson value, proper_membersOfJson rest⟩

end

end Document

namespace Yaml

theorem json?_scalar (room : Nat) (tag : Option String) (style : Style) (text : String) :
    json? [] room (.scalar tag style text) = (scalarBuffer? tag style text).bind Buffer.json? := by
  cases room <;> rfl

mutual

/-- A free-form value is read from its node. -/
theorem json?_node : ∀ {value : Json} {room : Nat}, value.Regular →
    (Document.ofJson value).depth ≤ room →
      json? [] room (Document.ofJson value).node = some value
  | .null, room, _, _ => json?_scalar room none .plain "null"
  | .bool value, room, _, _ => by
      cases value
      · exact json?_scalar room none .plain "false"
      · exact json?_scalar room none .plain "true"
  | .integer value, room, hregular, _ => by
      rw [Document.ofJson, Document.node, json?_scalar,
        scalarBuffer?_ofInt hregular.1 hregular.2, Option.bind_some]
      split
      · rfl
      · simp only [Buffer.json?]
        congr 2
        omega
  | .float value, room, hregular, _ => by
      have hfinite : value.isFinite = true := hregular
      rw [Document.ofJson, Document.node, json?_scalar, scalarBuffer?_float hfinite,
        Option.bind_some, Buffer.json?, Json.ofFloat, if_pos hfinite]
  | .string value, room, _, _ => by
      rw [Document.ofJson, Document.node, textNode, json?_scalar, scalarBuffer?_text,
        Option.bind_some, Buffer.json?]
  | .array items, 0, _, hdepth => absurd hdepth (Nat.not_succ_le_zero _)
  | .array items, room + 1, hregular, hdepth =>
      congrArg (Option.map Json.array)
        (json?_items hregular (Nat.le_of_succ_le_succ hdepth))
  | .object members, 0, _, hdepth => absurd hdepth (Nat.not_succ_le_zero _)
  | .object members, room + 1, hregular, hdepth => by
      have hmembers := json?_members hregular.2 (Nat.le_of_succ_le_succ hdepth)
      have hentries := Dictionary.entries_ofList hregular.1
      have hread := congrArg (Option.map fun members =>
        Json.ofDictionary (Dictionary.ofList members)) hmembers
      rw [Option.map_some, Json.ofDictionary, hentries] at hread
      exact hread

theorem json?_items : ∀ {items : List Json} {room : Nat}, Json.RegularItems items →
    Document.depthOfItems (Document.itemsOfJson items) ≤ room →
      (Document.nodeOfItems (Document.itemsOfJson items)).mapM (json? [] room) = some items
  | [], _, _, _ => rfl
  | item :: rest, room, hregular, hdepth => by
      rw [Document.itemsOfJson, Document.depthOfItems, Nat.max_le] at hdepth
      exact mapM_cons_some (json?_node hregular.1 hdepth.1) (json?_items hregular.2 hdepth.2)

theorem json?_members : ∀ {members : List (String × Json)} {room : Nat},
    Json.RegularMembers members →
    Document.depthOfMembers (Document.membersOfJson members) ≤ room →
      ((Document.nodeOfMembers (Document.membersOfJson members)).mapM fun member =>
        (scalarText? [] member.1).bind fun key =>
          (json? [] room member.2).map fun value => (key, value)) = some members
  | [], _, _, _ => rfl
  | (name, value) :: rest, room, hregular, hdepth => by
      rw [Document.membersOfJson, Document.depthOfMembers, Nat.max_le] at hdepth
      refine mapM_cons_some ?_ (json?_members hregular.2 hdepth.2)
      rw [json?_node hregular.1 hdepth.1]
      rfl

end

namespace Cursor

variable {cursor : Cursor}

theorem Denotes.float? {x : Float} (htree : Denotes cursor (.float x))
    (hfinite : x.isFinite = true) : Source.float? cursor = some x := by
  simp [Source.float?, typedText?, htree.actual?, Document.node, float?_text hfinite]

theorem Denotes.json? {value : Json} (htree : Denotes cursor (.ofJson value))
    (hregular : value.Regular) : Source.json? cursor = some value := by
  simp only [Source.json?, htree.isAffordable, if_true, htree.anchored, htree.node]
  exact json?_node hregular htree.depth

/-- A dictionary is read from the node of its members. -/
theorem Denotes.dictionary? {d : Dictionary Json} (htree : Denotes cursor (.ofJson (.ofDictionary d)))
    (hregular : Json.RegularMembers d.entries) : Source.dictionary? cursor = some d := by
  have hmembers := Denotes.members? htree
  have hread : (d.entries.map fun entry =>
      (entry.1, cursor.child (Document.ofJson entry.2).node)).mapM
        (fun member => (Source.json? member.2).map fun value => (member.1, value)) =
      some (d.entries.map id) := by
    refine mapM_map_eq_some fun entry hentry => ?_
    have hregular := (Json.regularMembers_iff _).mp hregular entry hentry
    have hmember : (entry.1, Document.ofJson entry.2) ∈ Document.membersOfJson d.entries := by
      rw [Document.membersOfJson_eq_map]
      exact List.mem_map_of_mem hentry
    rw [(htree.member _ hmember).json? hregular]
    rfl
  rw [Document.membersOfJson_eq_map, List.map_map, Function.comp_def] at hmembers
  rw [List.map_id] at hread
  rw [Source.dictionary?]
  simp only [Source.members?, hmembers, hread]
  rw [Option.map_some, d.ofList_entries]

end Cursor

end Yaml

end DesktopTrial
