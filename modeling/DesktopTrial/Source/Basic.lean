import DesktopTrial.Json.Basic

/-!
# Sources of data

Typed values are read from several kinds of trees: JSON text, YAML text, and
buffers that hold a part of either.  A `Source` says what such a tree offers to
a reader that knows which kind of value it wants; the readers of the domain
types are written once, over every source.
-/

namespace DesktopTrial

/-- How a field or a variant is named: by its name, or by its place in the
declaration. -/
inductive Key where
  | name (text : String)
  | index (place : Nat)
deriving DecidableEq

/-- Does the key denote the member `name` declared at `place`? -/
def Key.denotes (key : Key) (place : Nat) (name : String) : Bool :=
  match key with
  | .name text => text == name
  | .index n => n == place

/-- The place of the named one among the declared names. -/
def Key.place? (key : Key) (names : List String) : Option Nat :=
  match key with
  | .name text => names.findIdx? (· == text)
  | .index n => if n < names.length then some n else none

/-- The fields of a structure, by name or in order of declaration. -/
inductive Fields (ν : Type) where
  | named (members : List (Key × ν))
  | positional (items : List ν)

/-- Part of a tree, taken out of its format. -/
inductive Buffer where
  | nothing
  | bool (value : Bool)
  | natural (value : Nat)
  | negative (value : Int)
  | float (value : Float)
  | text (value : String)
  | sequence (items : List Buffer)
  | mapping (members : List (Buffer × Buffer))

/-- A tree that typed values can be read from.  Every function answers `none`
when the tree is of another kind. -/
class Source (ν : Type) where
  bool? : ν → Option Bool
  /-- A whole number that is not negative and fits 64 bits. -/
  natural? : ν → Option Nat
  float? : ν → Option Float
  text? : ν → Option String
  /-- The tree where something is given, `some none` where nothing is. -/
  option? : ν → Option (Option ν)
  sequence? : ν → Option (List ν)
  fields? : ν → Option (Fields ν)
  /-- The members of a map with text keys. -/
  members? : ν → Option (List (String × ν))
  /-- The name of a variant and what is given with it. -/
  variant? : ν → Option (Key × Option ν)
  /-- The tree holds nothing, as a variant without content may. -/
  holdsNothing : ν → Bool
  /-- The variant named by the member `tag`, and the other members. -/
  tagged? : (tag : String) → ν → Option (Key × Buffer)
  /-- The tree as a free-form value. -/
  json? : ν → Option Json

namespace Source

variable {ν : Type} [Source ν]

/-- The fields of a structure that declares `count` of them. -/
def record? (count : Nat) (tree : ν) : Option (Fields ν) :=
  match fields? tree with
  | some (.positional items) =>
      if items.length ≤ count then some (.positional items) else none
  | other => other

def naturalUpTo? (limit : Nat) (tree : ν) : Option Nat :=
  match natural? tree with
  | some n => if n ≤ limit then some n else none
  | none => none

def listOf? {α : Type} (read : ν → Option α) (tree : ν) : Option (List α) :=
  (sequence? tree).bind fun items => items.mapM read

def optionOf? {α : Type} (read : ν → Option α) (tree : ν) : Option (Option α) :=
  match option? tree with
  | none => none
  | some none => some none
  | some (some given) => (read given).map some

/-- The place of a variant without content among the declared names. -/
def choice? (names : List String) (tree : ν) : Option Nat :=
  match variant? tree with
  | none => none
  | some (key, content) =>
      if content.all holdsNothing then key.place? names else none

/-- A dictionary of free-form values; the last of equal keys stays. -/
def dictionary? (tree : ν) : Option (Dictionary Json) :=
  match members? tree with
  | none => none
  | some members =>
      (members.mapM fun member => (json? member.2).map fun value => (member.1, value)).map
        Dictionary.ofList

end Source

namespace Fields

variable {ν : Type} {α : Type}

/-- The field `name` declared at `place`.  `absent` stands for a name that is not
given and `short` for a place behind the last item; a name given twice is
refused. -/
def field? (fields : Fields ν) (place : Nat) (name : String) (read : ν → Option α)
    (absent short : Option α) : Option α :=
  match fields with
  | .named members =>
      match members.filter fun member => member.1.denotes place name with
      | [] => absent
      | [member] => read member.2
      | _ => none
  | .positional items =>
      match items[place]? with
      | some item => read item
      | none => short

def required? (fields : Fields ν) (place : Nat) (name : String) (read : ν → Option α) :
    Option α :=
  fields.field? place name read none none

/-- A field that has a value of its own when it is not given. -/
def defaulted? (fields : Fields ν) (place : Nat) (name : String) (read : ν → Option α)
    (standard : α) : Option α :=
  fields.field? place name read (some standard) (some standard)

end Fields

end DesktopTrial
