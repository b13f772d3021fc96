import DesktopTrial.Json.Reader
import DesktopTrial.Source.Buffer

/-!
# JSON text as a source

A place in a JSON text together with the number of arrays and objects that may
still be entered.  Parts that no reader enters may nest as deep as they like.
-/

namespace DesktopTrial.Json

structure Cursor where
  /-- Levels of nesting that may still be entered. -/
  room : Nat
  written : Written

/-- The deepest nesting of arrays and objects that is read. -/
def nestingLimit : Nat := 127

mutual

/-- A part of the text as a buffer, at most `room` levels deep. -/
def Written.buffer? (room : Nat) : Written → Option Buffer
  | .null => some .nothing
  | .bool value => some (.bool value)
  | .number literal =>
      match literal.integer? with
      | some value =>
          some (if value < 0 then .negative value else .natural value.toNat)
      | none => literal.float?.map .float
  | .string text => text.map .text
  | .array items =>
      match room with
      | 0 => none
      | room + 1 => (bufferItems? room items).map .sequence
  | .object members =>
      match room with
      | 0 => none
      | room + 1 => (bufferMembers? room members).map .mapping

def bufferItems? (room : Nat) : List Written → Option (List Buffer)
  | [] => some []
  | item :: rest =>
      match item.buffer? room, bufferItems? room rest with
      | some item, some rest => some (item :: rest)
      | _, _ => none

def bufferMembers? (room : Nat) :
    List (Option String × Written) → Option (List (Buffer × Buffer))
  | [] => some []
  | (name, value) :: rest =>
      match name, value.buffer? room, bufferMembers? room rest with
      | some name, some value, some rest => some ((.text name, value) :: rest)
      | _, _, _ => none

end

mutual

/-- A part of the text as a free-form value, at most `room` levels deep.  The
members of an object are put in order, the last of equal names staying. -/
def Written.json? (room : Nat) : Written → Option Json
  | .null => some .null
  | .bool value => some (.bool value)
  | .number literal => literal.value?
  | .string text => text.map .string
  | .array items =>
      match room with
      | 0 => none
      | room + 1 => (jsonItems? room items).map .array
  | .object members =>
      match room with
      | 0 => none
      | room + 1 => (jsonMembers? room members).map fun members =>
          ofDictionary (Dictionary.ofList members)

def jsonItems? (room : Nat) : List Written → Option (List Json)
  | [] => some []
  | item :: rest =>
      match item.json? room, jsonItems? room rest with
      | some item, some rest => some (item :: rest)
      | _, _ => none

def jsonMembers? (room : Nat) :
    List (Option String × Written) → Option (List (String × Json))
  | [] => some []
  | (name, value) :: rest =>
      match name, value.json? room, jsonMembers? room rest with
      | some name, some value, some rest => some ((name, value) :: rest)
      | _, _, _ => none

end

namespace Cursor

/-- The items of an array, one level deeper. -/
def items? (cursor : Cursor) : Option (List Cursor) :=
  match cursor.room, cursor.written with
  | room + 1, .array items => some (items.map fun item => ⟨room, item⟩)
  | _, _ => none

/-- The members of an object, one level deeper. -/
def members? (cursor : Cursor) : Option (List (String × Cursor)) :=
  match cursor.room, cursor.written with
  | room + 1, .object members =>
      members.mapM fun member => member.1.map fun name => (name, ⟨room, member.2⟩)
  | _, _ => none

def text? (cursor : Cursor) : Option String :=
  match cursor.written with
  | .string text => text
  | _ => none

def key? (cursor : Cursor) : Option Key := cursor.text?.map .name

/-- Separates the member `tag` from the others, which go into a buffer. -/
def tagged? (tag : String) (cursor : Cursor) : Option (Key × Buffer) :=
  match cursor.room, cursor.written with
  | room + 1, .object members =>
      match members.filter fun member => member.1 == some tag with
      | [member] =>
          match (⟨room, member.2⟩ : Cursor).key?,
              bufferMembers? room (members.filter fun member => member.1 != some tag) with
          | some key, some rest => some (key, .mapping rest)
          | _, _ => none
      | _ => none
  | room + 1, .array (first :: rest) =>
      match (⟨room, first⟩ : Cursor).key?, bufferItems? room rest with
      | some key, some rest => some (key, .sequence rest)
      | _, _ => none
  | _, _ => none

instance : Source Cursor where
  bool? cursor := match cursor.written with
    | .bool value => some value
    | _ => none
  natural? cursor := match cursor.written with
    | .number literal =>
        match literal.integer? with
        | some value => if value < 0 then none else some value.toNat
        | none => none
    | _ => none
  float? cursor := match cursor.written with
    | .number literal => literal.float?
    | _ => none
  text? := text?
  option? cursor := match cursor.written with
    | .null => some none
    | _ => some (some cursor)
  sequence? := items?
  fields? cursor := match cursor.written with
    | .array _ => cursor.items?.map .positional
    | _ => cursor.members?.map fun members =>
        .named (members.map fun member => (.name member.1, member.2))
  members? := members?
  variant? cursor := match cursor.written with
    | .string text => text.map fun name => (.name name, none)
    | _ => match cursor.members? with
      | some [(name, value)] => some (.name name, some value)
      | _ => none
  holdsNothing cursor := match cursor.written with
    | .null => true
    | _ => false
  tagged? := tagged?
  json? cursor := cursor.written.json? cursor.room

end Cursor

def decode? {α : Type} (read : Cursor → Option α) (text : String) : Option α :=
  match Json.read? text with
  | some written => read ⟨nestingLimit, written⟩
  | none => none

end DesktopTrial.Json
