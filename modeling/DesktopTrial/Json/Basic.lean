import DesktopTrial.Dictionary
import DesktopTrial.Decimal.Layout

/-!
# JSON values

Values of the JSON data format.  Numbers are whole numbers of 64 bits or binary64
values; an object keeps its members in the order in which they are written.
-/

namespace DesktopTrial

inductive Json where
  | null
  | bool (value : Bool)
  | integer (value : Int)
  | float (value : Float)
  | string (value : String)
  | array (items : List Json)
  | object (members : List (String × Json))

namespace Json

instance : Inhabited Json := ⟨.null⟩

/-- A binary64 value; one that is not finite has no JSON form but `null`. -/
def ofFloat (x : Float) : Json := if x.isFinite then .float x else .null

def ofNat (n : Nat) : Json := .integer n

def ofOption {α : Type} (f : α → Json) : Option α → Json
  | none => .null
  | some x => f x

def ofDictionary (d : Dictionary Json) : Json := .object d.entries

end Json

end DesktopTrial
