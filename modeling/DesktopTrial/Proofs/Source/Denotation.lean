import DesktopTrial.Document
import DesktopTrial.Geometry
import DesktopTrial.Source.Buffer

/-!
# Trees that denote documents

A document is written as text and read back from a tree of another kind: JSON text, YAML
text, or a buffer.  A tree denotes a document when it answers every question of a reader
as the document says.  What is proved of readers here holds for every kind of tree.
-/

namespace DesktopTrial

/-! ## Documents as buffers -/

namespace Document

mutual

/-- The document as a buffer: a variant is a mapping with one member. -/
def buffer : Document → Buffer
  | .null => .nothing
  | .bool value => .bool value
  | .integer value => if value < 0 then .negative value else .natural value.toNat
  | .float value => .float value
  | .text value => .text value
  | .sequence items => .sequence (bufferOfItems items)
  | .mapping members => .mapping (bufferOfMembers members)
  | .variant name content => .mapping [(.text name, content.buffer)]

def bufferOfItems : List Document → List Buffer
  | [] => []
  | item :: rest => item.buffer :: bufferOfItems rest

def bufferOfMembers : List (String × Document) → List (Buffer × Buffer)
  | [] => []
  | (name, value) :: rest => (.text name, value.buffer) :: bufferOfMembers rest

end

theorem bufferOfItems_eq_map (items : List Document) : bufferOfItems items = items.map buffer := by
  induction items with
  | nil => rfl
  | cons item items ih => rw [bufferOfItems, ih, List.map_cons]

theorem bufferOfMembers_eq_map (members : List (String × Document)) :
    bufferOfMembers members = members.map fun member => (.text member.1, member.2.buffer) := by
  induction members with
  | nil => rfl
  | cons member members ih => rw [bufferOfMembers, ih, List.map_cons]

end Document

/-- Reading every item of a list that was written item by item. -/
theorem mapM_map_eq_some {α β γ : Type} {f : α → β} {g : β → Option γ} {h : α → γ} {items : List α}
    (hread : ∀ item ∈ items, g (f item) = some (h item)) :
    (items.map f).mapM g = some (items.map h) := by
  induction items with
  | nil => rfl
  | cons item items ih =>
      rw [List.map_cons, List.mapM_cons, hread item List.mem_cons_self,
        ih fun item hitem => hread item (List.mem_cons_of_mem _ hitem)]
      rfl

/-! ## What a denoting tree answers -/

/-- A kind of trees with the documents that its trees denote. -/
structure Denotation (ν : Type) [Source ν] where
  denotes : ν → Document → Prop
  /-- The members can be set aside in a buffer without losing anything. -/
  keeps : List (String × Document) → Prop
  text : ∀ {tree value}, denotes tree (.text value) → Source.text? tree = some value
  bool : ∀ {tree value}, denotes tree (.bool value) → Source.bool? tree = some value
  natural : ∀ {tree value}, denotes tree (.natural value) → value < UInt64.size →
    Source.natural? tree = some value
  nothing : ∀ {tree}, denotes tree .null → Source.option? tree = some none
  something : ∀ {tree value}, denotes tree (.text value) → Source.option? tree = some (some tree)
  someVariant : ∀ {tree name content}, denotes tree (.variant name content) →
    Source.option? tree = some (some tree)
  sequence : ∀ {tree items}, denotes tree (.sequence items) →
    ∃ child : Document → ν, Source.sequence? tree = some (items.map child) ∧
      ∀ item ∈ items, denotes (child item) item
  mapping : ∀ {tree members}, denotes tree (.mapping members) →
    ∃ child : Document → ν,
      Source.fields? tree =
        some (.named (members.map fun member => (.name member.1, child member.2))) ∧
      ∀ member ∈ members, denotes (child member.2) member.2
  bareVariant : ∀ {tree name}, denotes tree (.text name) →
    Source.variant? tree = some (.name name, none)
  variant : ∀ {tree name content}, denotes tree (.variant name content) →
    ∃ given, Source.variant? tree = some (.name name, some given) ∧ denotes given content
  tagged : ∀ {tree tag kind members}, denotes tree (.mapping ((tag, .text kind) :: members)) →
    (∀ member ∈ members, member.1 ≠ tag) → keeps members →
    Source.tagged? tag tree = some (.name kind, .mapping (Document.bufferOfMembers members))

/-! ## Fields -/

namespace Fields

variable {ν α : Type} {members : List (String × Document)} {child : Document → ν}
  {place : Nat} {name : String} {document : Document} {read : ν → Option α}
  {absent short : Option α}

theorem filter_eq_nil (hmember : name ∉ members.map Prod.fst) :
    members.filter (·.1 == name) = [] := by
  rw [List.filter_eq_nil_iff]
  intro other hother hsame
  exact hmember (List.mem_map.mpr ⟨other, hother, beq_iff_eq.mp hsame⟩)

theorem filter_eq_singleton (hdistinct : (members.map Prod.fst).Nodup)
    (hmember : (name, document) ∈ members) :
    members.filter (·.1 == name) = [(name, document)] := by
  induction members with
  | nil => cases hmember
  | cons member members ih =>
      rw [List.map_cons, List.nodup_cons] at hdistinct
      rw [List.filter_cons]
      rcases List.mem_cons.mp hmember with heq | hrest
      · subst heq
        rw [if_pos (beq_self_eq_true _), filter_eq_nil hdistinct.1]
      · have hother : (member.1 == name) = false := by
          rw [beq_eq_false_iff_ne]
          rintro rfl
          exact hdistinct.1 (List.mem_map.mpr ⟨_, hrest, rfl⟩)
        rw [hother, if_neg Bool.false_ne_true, ih hdistinct.2 hrest]

/-- The fields that some members are written as, each read by what it denotes. -/
abbrev ofMembers (child : Document → ν) (members : List (String × Document)) : Fields ν :=
  .named (members.map fun member => (.name member.1, child member.2))

theorem field?_ofMembers :
    (ofMembers child members).field? place name read absent short =
      match members.filter (·.1 == name) with
      | [] => absent
      | [member] => read (child member.2)
      | _ => none := by
  have hfilter : (members.map fun member => (Key.name member.1, child member.2)).filter
      (fun member => member.1.denotes place name) =
      (members.filter (·.1 == name)).map fun member => (.name member.1, child member.2) :=
    List.filter_map
  rw [ofMembers, field?, hfilter]
  generalize members.filter (·.1 == name) = found
  rcases found with _ | ⟨first, _ | ⟨second, rest⟩⟩ <;> rfl

end Fields

/-! ## Readers -/

namespace Denotation

variable {ν α : Type} [Source ν] (D : Denotation ν) {tree : ν}

/-- The fields offer what the members of a document say. -/
structure Offers (members : List (String × Document)) (fields : Fields ν) : Prop where
  /-- A member decides what is read from its field. -/
  given : ∀ {α : Type} {place : Nat} {name : String} {document : Document} {result : Option α}
    {read : ν → Option α} {absent short : Option α},
    (∀ tree, D.denotes tree document → read tree = result) →
    (name, document) ∈ members → fields.field? place name read absent short = result
  /-- A field without a member is left to its standard value. -/
  missing : ∀ {α : Type} {place : Nat} {name : String} {read : ν → Option α}
    {absent short : Option α},
    name ∉ members.map Prod.fst → fields.field? place name read absent short = absent

theorem record {members : List (String × Document)} (htree : D.denotes tree (.mapping members))
    (hdistinct : (members.map Prod.fst).Nodup) (count : Nat) :
    ∃ fields, Source.record? count tree = some fields ∧ D.Offers members fields := by
  obtain ⟨child, hfields, hchild⟩ := D.mapping htree
  refine ⟨.ofMembers child members, by rw [Source.record?, hfields], ?_, ?_⟩
  · intro α place name document result read absent short hread hmember
    rw [Fields.field?_ofMembers, Fields.filter_eq_singleton hdistinct hmember]
    exact hread _ (hchild _ hmember)
  · intro α place name read absent short hmember
    rw [Fields.field?_ofMembers, Fields.filter_eq_nil hmember]

theorem word64 {n : UInt64} (htree : D.denotes tree (.natural n.toNat)) :
    Source.word64? tree = some n := by
  have hbound : n.toNat ≤ UInt64.size - 1 := Nat.le_sub_one_of_lt n.toNat_lt
  rw [Source.word64?, Source.naturalUpTo?, D.natural htree n.toNat_lt]
  dsimp only
  rw [if_pos hbound, Option.map_some, UInt64.ofNat_toNat]

theorem word32 {n : UInt32} (htree : D.denotes tree (.natural n.toNat)) :
    Source.word32? tree = some n := by
  have hbound : n.toNat ≤ UInt32.size - 1 := Nat.le_sub_one_of_lt n.toNat_lt
  rw [Source.word32?, Source.naturalUpTo?, D.natural htree (Nat.lt_trans n.toNat_lt (by decide))]
  dsimp only
  rw [if_pos hbound, Option.map_some, UInt32.ofNat_toNat]

/-- A sequence is read item by item. -/
theorem listOf {values : List α} {write : α → Document} {read : ν → Option α}
    (hread : ∀ value ∈ values, ∀ tree, D.denotes tree (write value) → read tree = some value)
    (htree : D.denotes tree (.sequence (values.map write))) :
    Source.listOf? read tree = some values := by
  obtain ⟨child, hitems, hchild⟩ := D.sequence htree
  rw [Source.listOf?, hitems, Option.bind_some, List.map_map]
  have hvalues := mapM_map_eq_some (f := child ∘ write) (g := read) (h := id) fun value hvalue =>
    hread value hvalue _ (hchild _ (List.mem_map_of_mem hvalue))
  rw [hvalues, List.map_id]

/-- A text that may be missing. -/
theorem optionalText {value : Option String} (htree : D.denotes tree (.ofOption .text value)) :
    Source.optionOf? Source.text? tree = some value := by
  cases value with
  | none => rw [Source.optionOf?, D.nothing htree]
  | some text =>
      rw [Source.optionOf?, D.something htree]
      dsimp only
      rw [D.text htree, Option.map_some]

end Denotation

/-! ## Buffers -/

namespace Buffer

/-- The tag is taken from the front when no other member has its name. -/
theorem taggedMembers?_cons {tag kind : String} {members : List (Buffer × Buffer)}
    (hothers : ∀ member ∈ members, isTag tag member.1 = false) :
    taggedMembers? tag ((.text tag, .text kind) :: members) =
      some (.name kind, .mapping members) := by
  have htag : isTag tag (.text tag) = true := by simp [isTag, text?]
  have hnone : members.filter (fun member => member.1.isTag tag) = [] :=
    List.filter_eq_nil_iff.mpr fun member hmember => by simp [hothers member hmember]
  have hall : members.filter (fun member => !member.1.isTag tag) = members :=
    List.filter_eq_self.mpr fun member hmember => by simp [hothers member hmember]
  simp only [taggedMembers?, List.filter_cons, htag, hnone, hall, if_true, Bool.not_true,
    Bool.false_eq_true, if_false]
  rfl

/-- A buffer denotes the document that was put into it. -/
def denotation : Denotation Buffer where
  denotes tree document := tree = document.buffer
  keeps _ := True
  text := by
    rintro _ value rfl
    rfl
  bool := by
    rintro _ value rfl
    rfl
  natural := by
    rintro _ value rfl _
    rfl
  nothing := by
    rintro _ rfl
    rfl
  something := by
    rintro _ value rfl
    rfl
  someVariant := by
    rintro _ name content rfl
    rfl
  sequence := by
    rintro _ items rfl
    refine ⟨Document.buffer, ?_, fun item _ => rfl⟩
    rw [Document.buffer, Document.bufferOfItems_eq_map]
    rfl
  mapping := by
    rintro _ members rfl
    refine ⟨Document.buffer, ?_, fun member _ => rfl⟩
    have hmembers : (members.map fun member => (Buffer.text member.1, member.2.buffer)).mapM
        (fun member => member.1.key?.map fun key => (key, member.2)) =
          some (members.map fun member => (Key.name member.1, member.2.buffer)) :=
      mapM_map_eq_some fun _ _ => rfl
    rw [Document.buffer, Document.bufferOfMembers_eq_map, Source.fields?]
    exact congrArg (Option.map Fields.named) hmembers
  bareVariant := by
    rintro _ name rfl
    rfl
  variant := by
    rintro _ name content rfl
    exact ⟨content.buffer, rfl, rfl⟩
  tagged := by
    rintro _ tag kind members rfl hothers _
    have hrest : ∀ member ∈ Document.bufferOfMembers members, isTag tag member.1 = false := by
      rw [Document.bufferOfMembers_eq_map]
      intro member hmember
      obtain ⟨written, hwritten, rfl⟩ := List.mem_map.mp hmember
      simpa [isTag, text?] using hothers written hwritten
    exact taggedMembers?_cons hrest

end Buffer

end DesktopTrial
