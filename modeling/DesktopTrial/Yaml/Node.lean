/-!
# YAML nodes

The tree that a YAML document denotes.  Scalars keep their style, because only
plain ones can be numbers, and an alias stays where it is written: whether it is
followed depends on who reads it.
-/

namespace DesktopTrial.Yaml

inductive Style where
  | plain
  | singleQuoted
  | doubleQuoted
  | literal
  | folded
deriving DecidableEq, Repr

inductive Node where
  | scalar (tag : Option String) (style : Style) (text : String)
  | sequence (tag : Option String) (items : List Node)
  | mapping (tag : Option String) (members : List (Node × Node))
  /-- The node anchored in a slot. -/
  | alias (slot : Nat)

namespace Node

/-- The scalar of a place where nothing is written. -/
def blank : Node := .scalar none .plain ""

def tag : Node → Option String
  | .scalar tag _ _ => tag
  | .sequence tag _ => tag
  | .mapping tag _ => tag
  | .alias _ => none

end Node

/-- A text with one document: its root, and the nodes that aliases stand for. -/
structure Contents where
  root : Node
  anchored : List (Nat × Node)

end DesktopTrial.Yaml
