import DesktopTrial.Decimal.Reading
import DesktopTrial.Source.Basic

/-!
# Buffers as sources

A buffer is read by the rules of no particular format: structures come as
mappings or sequences, variants as a name or a mapping with one member, and a
member may be named by its place.
-/

namespace DesktopTrial.Buffer

/-- The greatest number of buffers one inside another. -/
def depth : Buffer → Nat
  | .sequence items => depthOfItems items + 1
  | .mapping members => depthOfMembers members + 1
  | _ => 1
where
  depthOfItems : List Buffer → Nat
    | [] => 0
    | item :: rest => max item.depth (depthOfItems rest)
  depthOfMembers : List (Buffer × Buffer) → Nat
    | [] => 0
    | (key, value) :: rest => max (max key.depth value.depth) (depthOfMembers rest)

/-- A buffer in the place of a name. -/
def key? : Buffer → Option Key
  | .text name => some (.name name)
  | .natural place => some (.index place)
  | _ => none

def text? : Buffer → Option String
  | .text value => some value
  | _ => none

mutual

def json? : Buffer → Option Json
  | .nothing => some .null
  | .bool value => some (.bool value)
  | .natural value => some (.integer value)
  | .negative value => some (.integer value)
  | .float value => some (Json.ofFloat value)
  | .text value => some (.string value)
  | .sequence items => (jsonItems? items).map .array
  | .mapping members => (jsonMembers? members).map fun members =>
      Json.ofDictionary (Dictionary.ofList members)

def jsonItems? : List Buffer → Option (List Json)
  | [] => some []
  | item :: rest =>
      match item.json?, jsonItems? rest with
      | some item, some rest => some (item :: rest)
      | _, _ => none

def jsonMembers? : List (Buffer × Buffer) → Option (List (String × Json))
  | [] => some []
  | (key, value) :: rest =>
      match key.text?, value.json?, jsonMembers? rest with
      | some key, some value, some rest => some ((key, value) :: rest)
      | _, _, _ => none

end

def isTag (tag : String) (key : Buffer) : Bool := key.text? == some tag

/-- Separates the member `tag` from the others. -/
def taggedMembers? (tag : String) (members : List (Buffer × Buffer)) :
    Option (Key × Buffer) :=
  match members.filter fun member => member.1.isTag tag with
  | [member] => member.2.key?.map fun key =>
      (key, .mapping (members.filter fun member => !member.1.isTag tag))
  | _ => none

instance : Source Buffer where
  bool?
    | .bool value => some value
    | _ => none
  natural?
    | .natural value => some value
    | _ => none
  float?
    | .float value => some value
    | .natural value => some (Decimal.toFloat false value 0)
    | .negative value => some (Decimal.toFloat true value.natAbs 0)
    | _ => none
  text? := text?
  option?
    | .nothing => some none
    | tree => some (some tree)
  sequence?
    | .sequence items => some items
    | _ => none
  fields?
    | .sequence items => some (.positional items)
    | .mapping members =>
        (members.mapM fun (member : Buffer × Buffer) =>
          member.1.key?.map fun key => (key, member.2)).map .named
    | _ => none
  members?
    | .mapping members =>
        members.mapM fun (member : Buffer × Buffer) =>
          member.1.text?.map fun key => (key, member.2)
    | _ => none
  variant?
    | .text name => some (.name name, none)
    | .mapping [(key, value)] => key.key?.map fun key => (key, some value)
    | _ => none
  holdsNothing
    | .nothing => true
    | .mapping [] => true
    | _ => false
  tagged? tag
    | .mapping members => taggedMembers? tag members
    | .sequence (first :: rest) => first.key?.map fun key => (key, .sequence rest)
    | _ => none
  json? := json?

end DesktopTrial.Buffer
