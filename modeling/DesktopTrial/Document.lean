import DesktopTrial.Json.Printer

/-!
# Documents

What the library writes, before a format is chosen.  A document knows the
variants of a choice and the binary64 values that are not numbers; JSON and YAML
show these differently.
-/

namespace DesktopTrial

/-- A value to be written. -/
inductive Document where
  | null
  | bool (value : Bool)
  | integer (value : Int)
  | float (value : Float)
  | text (value : String)
  | sequence (items : List Document)
  | mapping (members : List (String × Document))
  /-- A variant with content.  One without content is the text of its name. -/
  | variant (name : String) (content : Document)

namespace Document

def natural (n : Nat) : Document := .integer n

def ofOption {α : Type} (write : α → Document) : Option α → Document
  | none => .null
  | some value => write value

mutual

/-- The document as a JSON value: a variant is an object with one member. -/
def toJson : Document → Json
  | .null => .null
  | .bool value => .bool value
  | .integer value => .integer value
  | .float value => Json.ofFloat value
  | .text value => .string value
  | .sequence items => .array (itemsToJson items)
  | .mapping members => .object (membersToJson members)
  | .variant name content => .object [(name, content.toJson)]

def itemsToJson : List Document → List Json
  | [] => []
  | item :: rest => item.toJson :: itemsToJson rest

def membersToJson : List (String × Document) → List (String × Json)
  | [] => []
  | (name, value) :: rest => (name, value.toJson) :: membersToJson rest

end

mutual

def ofJson : Json → Document
  | .null => .null
  | .bool value => .bool value
  | .integer value => .integer value
  | .float value => .float value
  | .string value => .text value
  | .array items => .sequence (itemsOfJson items)
  | .object members => .mapping (membersOfJson members)

def itemsOfJson : List Json → List Document
  | [] => []
  | item :: rest => ofJson item :: itemsOfJson rest

def membersOfJson : List (String × Json) → List (String × Document)
  | [] => []
  | (name, value) :: rest => (name, ofJson value) :: membersOfJson rest

end

def json (document : Document) : String := Json.compact document.toJson

end Document

end DesktopTrial
