import DesktopTrial.Decimal.Reading

/-!
# Plain scalars

What a YAML scalar without quotes stands for: nothing, a truth value, a number or
its own text, by the core schema of YAML 1.2 with binary integers added.
-/

namespace DesktopTrial.Yaml

inductive Resolved where
  | null
  | bool (value : Bool)
  | integer (value : Int)
  | float (value : Float)
  | text

def isNullWord (text : String) : Bool :=
  text == "null" || text == "Null" || text == "NULL" || text == "~"

def boolWord? (text : String) : Option Bool :=
  if text == "true" || text == "True" || text == "TRUE" then some true
  else if text == "false" || text == "False" || text == "FALSE" then some false
  else none

def baseDigit? (base : Nat) (c : Char) : Option Nat :=
  let value :=
    if c.isDigit then c.toNat - 48
    else if 'a' ≤ c ∧ c ≤ 'f' then c.toNat - 87
    else if 'A' ≤ c ∧ c ≤ 'F' then c.toNat - 55
    else 16
  if value < base then some value else none

/-- A run of digits of a base; one digit at least. -/
def baseDigits? (base : Nat) (ds : List Char) : Option Nat :=
  if ds.isEmpty then none
  else ds.foldlM (fun n d => (baseDigit? base d).map fun value => base * n + value) 0

def isSign (c : Char) : Bool := c == '+' || c == '-'

/-- More than one digit, the first of them zero: digits that are no number. -/
def isZeroPadded (text : List Char) : Bool :=
  let body := match text with
    | c :: rest => if isSign c then rest else text
    | [] => []
  match body with
  | '0' :: d :: rest => (d :: rest).all Char.isDigit
  | _ => false

/-- Digits behind a mark of their base, or decimal digits. -/
def magnitude? (text : List Char) : Option Nat :=
  match text with
  | '0' :: 'x' :: ds => baseDigits? 16 ds
  | '0' :: 'o' :: ds => baseDigits? 8 ds
  | '0' :: 'b' :: ds => baseDigits? 2 ds
  | ds => if isZeroPadded ds then none else baseDigits? 10 ds

/-- A whole number with a plus sign or none. -/
def unsigned? (text : List Char) : Option Nat :=
  match text with
  | '+' :: rest => magnitude? rest
  | _ => magnitude? text

def negated? (text : List Char) : Option Nat :=
  match text with
  | '-' :: rest => magnitude? rest
  | _ => none

/-- Drops a leading plus sign, which no other sign may follow. -/
def dropPlus? (text : List Char) : Option (List Char) :=
  match text with
  | '+' :: c :: rest => if isSign c then none else some (c :: rest)
  | '+' :: [] => some []
  | _ => some text

/-- A binary64 value: decimal, or one of the words for values without digits. -/
def float? (text : String) : Option Float :=
  match dropPlus? text.toList with
  | none => none
  | some body =>
      let word := String.ofList body
      if word == ".inf" || word == ".Inf" || word == ".INF" then
        some (Float.ofBits 0x7FF0000000000000)
      else if text == "-.inf" || text == "-.Inf" || text == "-.INF" then
        some (Float.ofBits 0xFFF0000000000000)
      else if text == ".nan" || text == ".NaN" || text == ".NAN" then
        some (Float.ofBits 0x7FF8000000000000)
      else match Decimal.readLenient? body with
        | none => none
        | some pieces =>
            let value := pieces.toFloat
            if value.isFinite then some value else none

/-- A whole number of up to 128 bits, with or without sign. -/
def integer? (text : List Char) : Option Int :=
  match unsigned? text with
  | some n => if n < Nat.pow 2 128 then some n else none
  | none =>
      match negated? text with
      | some n => if n ≤ Nat.pow 2 127 then some (-n) else none
      | none => none

def resolve (text : String) : Resolved :=
  if text.isEmpty || isNullWord text then .null
  else match boolWord? text with
    | some value => .bool value
    | none =>
        match integer? text.toList with
        | some value => .integer value
        | none =>
            if isZeroPadded text.toList then .text
            else match float? text with
              | some value => .float value
              | none => .text

end DesktopTrial.Yaml
