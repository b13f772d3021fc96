import DesktopTrial.Decimal.Reading
import DesktopTrial.Json.Basic

/-!
# JSON as written

What a JSON text says before anyone asks for a particular kind of value.  Number
literals keep their digits and objects keep repeated names, because whether
these are accepted depends on what is read from them; a part of the text that
nobody asks for only has to be well formed.
-/

namespace DesktopTrial.Json

structure NumberText where
  pieces : Decimal.Pieces
  /-- The literal has neither a fraction nor an exponent. -/
  whole : Bool

/-- The least and the greatest whole numbers of 64 bits, without and with sign. -/
def leastInteger : Int := -Int.ofNat (UInt64.size / 2)

def greatestInteger : Int := Int.ofNat UInt64.size - 1

/-- The whole number that a literal denotes.  A negative zero is not whole, and
neither is a number that does not fit 64 bits. -/
def NumberText.integer? (n : NumberText) : Option Int :=
  if !n.whole then none
  else
    let magnitude := Decimal.digitsValue 0 n.pieces.whole
    let value : Int := if n.pieces.negative then -magnitude else magnitude
    if n.pieces.negative && magnitude == 0 then none
    else if leastInteger ≤ value ∧ value ≤ greatestInteger then some value
    else none

/-- The binary64 value of a literal, unless it is beyond the finite ones. -/
def NumberText.float? (n : NumberText) : Option Float :=
  let value := n.pieces.toFloat
  if value.isFinite then some value else none

/-- The value of a literal: whole if it can be, else binary64. -/
def NumberText.value? (n : NumberText) : Option Json :=
  match n.integer? with
  | some value => some (.integer value)
  | none => n.float?.map .float

/-- A well-formed JSON text.  A string is `none` when one of its escapes is half
of a surrogate pair, so that it denotes no text. -/
inductive Written where
  | null
  | bool (value : Bool)
  | number (literal : NumberText)
  | string (text : Option String)
  | array (items : List Written)
  | object (members : List (Option String × Written))

end DesktopTrial.Json
