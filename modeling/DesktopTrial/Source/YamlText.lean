import DesktopTrial.Source.Buffer
import DesktopTrial.Yaml.Reader
import DesktopTrial.Yaml.Scalar

/-!
# YAML text as a source

A place in a YAML text.  A plain scalar takes the type that its reader asks for;
only a free-form reader resolves it by the core schema.  A local tag names the
variant of a choice.
-/

namespace DesktopTrial.Yaml

/-- The deepest nesting of sequences and mappings that is read. -/
def nestingLimit : Nat := 128

/-- The tags of the core schema. -/
def coreTag (name : String) : String := "tag:yaml.org,2002:" ++ name

/-- The name in a local tag, which begins with an exclamation mark. -/
def localName? (tag : Option String) : Option String :=
  match tag.map String.toList with
  | some ['!'] => some "!"
  | some ('!' :: name) => some (String.ofList name)
  | _ => none

namespace Node

/-- The node without its tag. -/
def untagged : Node → Node
  | .scalar _ style text => .scalar none style text
  | .sequence _ items => .sequence none items
  | .mapping _ members => .mapping none members
  | .alias slot => .alias slot

/-- How many scalars, aliases, and ends of sequences and mappings the node has. -/
def events : Node → Nat
  | .sequence _ items => eventsOfItems items + 2
  | .mapping _ members => eventsOfMembers members + 2
  | _ => 1
where
  eventsOfItems : List Node → Nat
    | [] => 0
    | item :: rest => item.events + eventsOfItems rest
  eventsOfMembers : List (Node × Node) → Nat
    | [] => 0
    | (key, value) :: rest => key.events + value.events + eventsOfMembers rest

end Node

/-- The node that an alias stands for; any other node stands for itself. -/
def follow? (anchored : List (Nat × Node)) : Node → Option Node
  | .alias slot => anchored.lookup slot
  | node => some node

/-- The value of a scalar for a free-form reader.  A tag of the core schema asks
for its type, a local tag has none, and without tag a plain scalar is resolved. -/
def scalarBuffer? (tag : Option String) (style : Style) (text : String) : Option Buffer :=
  let whole (value : Int) : Option Buffer :=
    if -Int.ofNat (UInt64.size / 2) ≤ value ∧ value < 0 then some (.negative value)
    else if 0 ≤ value ∧ value < Int.ofNat UInt64.size then some (.natural value.toNat)
    else none
  match tag with
  | some tag =>
      if tag = coreTag "bool" then (boolWord? text).map .bool
      else if tag = coreTag "int" then (integer? text.toList).bind whole
      else if tag = coreTag "float" then (float? text).map .float
      else if tag = coreTag "null" then if isNullWord text then some .nothing else none
      else if (localName? (some tag)).isSome then none
      else some (.text text)
  | none =>
      if style = .plain then
        match resolve text with
        | .null => some .nothing
        | .bool value => some (.bool value)
        | .integer value => whole value
        | .float value => some (.float value)
        | .text => some (.text text)
      else some (.text text)

/-- The aliases that may still be followed after the whole node is read, if it can
be read so. -/
def allowance? (anchored : List (Nat × Node)) : Nat → Nat → Node → Option Nat
  | room, left, .alias slot =>
      match left, room, anchored.lookup slot with
      | left + 1, room + 1, some (.sequence _ items) =>
          items.foldlM (allowance? anchored room) left
      | left + 1, room + 1, some (.mapping _ members) =>
          members.foldlM (fun left member =>
            (allowance? anchored room left member.1).bind fun left =>
              allowance? anchored room left member.2) left
      | left + 1, _, some (.scalar _ _ _) => some left
      | _, _, _ => none
  | room + 1, left, .sequence _ items => items.foldlM (allowance? anchored room) left
  | room + 1, left, .mapping _ members =>
      members.foldlM (fun left member =>
        (allowance? anchored room left member.1).bind fun left =>
          allowance? anchored room left member.2) left
  | _, left, .scalar _ _ _ => some left
  | _, _, _ => none

/-- A node as a buffer, at most `room` levels deep. -/
def buffer? (anchored : List (Nat × Node)) (room : Nat) (node : Node) : Option Buffer :=
  match room, follow? anchored node with
  | _, some (.scalar tag style text) => scalarBuffer? tag style text
  | room + 1, some (.sequence tag items) =>
      if (localName? tag).isSome then none
      else (items.mapM (buffer? anchored room)).map .sequence
  | room + 1, some (.mapping tag members) =>
      if (localName? tag).isSome then none
      else
        (members.mapM fun member =>
          (buffer? anchored room member.1).bind fun key =>
            (buffer? anchored room member.2).map fun value => (key, value)).map .mapping
  | _, _ => none

/-- The text of a scalar, whatever its style and tag. -/
def scalarText? (anchored : List (Nat × Node)) (node : Node) : Option String :=
  match follow? anchored node with
  | some (.scalar _ _ text) => some text
  | _ => none

/-- A node as a free-form value, at most `room` levels deep. -/
def json? (anchored : List (Nat × Node)) (room : Nat) (node : Node) : Option Json :=
  match room, follow? anchored node with
  | _, some (.scalar tag style text) => (scalarBuffer? tag style text).bind Buffer.json?
  | room + 1, some (.sequence tag items) =>
      if (localName? tag).isSome then none
      else (items.mapM (json? anchored room)).map .array
  | room + 1, some (.mapping tag members) =>
      if (localName? tag).isSome then none
      else
        (members.mapM fun member =>
          (scalarText? anchored member.1).bind fun key =>
            (json? anchored room member.2).map fun value => (key, value)).map fun members =>
              Json.ofDictionary (Dictionary.ofList members)
  | _, _ => none

structure Cursor where
  /-- Levels of nesting that may still be entered. -/
  room : Nat
  /-- How many aliases a free-form value may follow. -/
  aliases : Nat
  anchored : List (Nat × Node)
  node : Node

namespace Cursor

def actual? (cursor : Cursor) : Option Node := follow? cursor.anchored cursor.node

/-- The text of a scalar that may hold a value of the type with this core tag: a
plain one, or a literal one with the tag. -/
def typedText? (name : String) (cursor : Cursor) : Option String :=
  match cursor.actual? with
  | some (.scalar tag style text) =>
      if style = .plain ∨ (style = .literal ∧ tag = some (coreTag name)) then some text else none
  | _ => none

def text? (cursor : Cursor) : Option String := scalarText? cursor.anchored cursor.node

/-- Is this a place where nothing is written? -/
def isEmptyPlain : Node → Bool
  | .scalar _ style text => style == .plain && text.isEmpty
  | _ => false

/-- The given node, one level deeper. -/
def child (cursor : Cursor) (node : Node) : Cursor :=
  { cursor with room := cursor.room - 1, node }

def sequence? (cursor : Cursor) : Option (List Cursor) :=
  match cursor.room, cursor.actual? with
  | _ + 1, some (.sequence _ items) => some (items.map cursor.child)
  | _, some node => if isEmptyPlain node then some [] else none
  | _, none => none

def members? (cursor : Cursor) : Option (List (String × Cursor)) :=
  match cursor.room, cursor.actual? with
  | _ + 1, some (.mapping _ members) =>
      members.mapM fun member =>
        (scalarText? cursor.anchored member.1).map fun name => (name, cursor.child member.2)
  | _, some node => if isEmptyPlain node then some [] else none
  | _, none => none

/-- What is given, if something is: a plain scalar may stand for nothing. -/
def option? (cursor : Cursor) : Option (Option Cursor) :=
  match cursor.actual? with
  | some (.scalar tag .plain text) =>
      match tag with
      | some tag =>
          if tag = coreTag "null" then if isNullWord text then some none else none
          else some (some cursor)
      | none => if text.isEmpty || isNullWord text then some none else some (some cursor)
  | some _ => some (some cursor)
  | none => none

/-- The variant named by a local tag, or by a scalar. -/
def variant? (cursor : Cursor) : Option (Key × Option Cursor) :=
  match cursor.actual? with
  | none => none
  | some node =>
      match localName? node.tag, node with
      | some name, node => some (.name name, some { cursor with node := node.untagged })
      | none, .scalar _ _ text => some (.name text, none)
      | none, _ => none

/-- Separates the member `tag` of a mapping, or the first item of a sequence, from
the others. -/
def tagged? (tag : String) (cursor : Cursor) : Option (Key × Buffer) :=
  match cursor.room, cursor.actual? with
  | room + 1, some (.mapping local? members) =>
      let isTag (member : Node × Node) : Bool :=
        ((buffer? cursor.anchored room member.1).bind Buffer.text?) == some tag
      if (localName? local?).isSome then none
      else match members.filter isTag with
        | [member] =>
            match scalarText? cursor.anchored member.2 with
            | none => none
            | some name =>
                ((members.filter fun member => !isTag member).mapM fun member =>
                  (buffer? cursor.anchored room member.1).bind fun key =>
                    (buffer? cursor.anchored room member.2).map fun value =>
                      (key, value)).map fun rest => (.name name, .mapping rest)
        | _ => none
  | room + 1, some (.sequence local? (first :: rest)) =>
      if (localName? local?).isSome then none
      else match scalarText? cursor.anchored first with
        | none => none
        | some name =>
            (rest.mapM (buffer? cursor.anchored room)).map fun rest =>
              (.name name, .sequence rest)
  | _, _ => none

/-- Can the node be read without following too many aliases? -/
def isAffordable (cursor : Cursor) : Bool :=
  (allowance? cursor.anchored cursor.room cursor.aliases cursor.node).isSome

instance : Source Cursor where
  bool? cursor := (cursor.typedText? "bool").bind boolWord?
  natural? cursor := match (cursor.typedText? "int").bind fun text => unsigned? text.toList with
    | some n => if n < UInt64.size then some n else none
    | none => none
  float? cursor := (cursor.typedText? "float").bind Yaml.float?
  text? := text?
  option? := option?
  sequence? := sequence?
  fields? cursor := cursor.members?.map fun members =>
    .named (members.map fun member => (.name member.1, member.2))
  members? := members?
  variant? := variant?
  holdsNothing cursor := match cursor.actual? with
    | some (.scalar _ .plain text) => text.isEmpty || isNullWord text
    | _ => false
  tagged? tag cursor := if cursor.isAffordable then cursor.tagged? tag else none
  json? cursor :=
    if cursor.isAffordable then Yaml.json? cursor.anchored cursor.room cursor.node else none

end Cursor

def decode? {α : Type} (read : Cursor → Option α) (text : String) : Option α :=
  match Yaml.read? text with
  | some contents =>
      read ⟨nestingLimit, 100 * contents.root.events, contents.anchored, contents.root⟩
  | none => none

end DesktopTrial.Yaml
