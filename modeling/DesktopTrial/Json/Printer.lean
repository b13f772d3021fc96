import DesktopTrial.Json.Basic

/-!
# JSON text

Values as JSON text, in one line without spaces or on indented lines.  Only the
quote, the backslash and the controls below the space are escaped.
-/

namespace DesktopTrial.Json

/-- Numbers in JSON: a point or an exponent is always there, the exponent with
its sign, and it is used below `1e-5` and from `1e16` on. -/
def numberLayout : Decimal.Layout where
  positional lead := -5 ≤ lead && lead < 16
  pointZero := true
  exponentPlus := true
  tie := .even
  nan := "null"
  infinity := "null"
  negativeInfinity := "null"

def hexDigit (n : Nat) : Char := if n < 10 then Char.ofNat (48 + n) else Char.ofNat (87 + n)

/-- One character between the quotes of a string. -/
def escapeChar (c : Char) : List Char :=
  match c with
  | '"' => ['\\', '"']
  | '\\' => ['\\', '\\']
  | '\x08' => ['\\', 'b']
  | '\x0c' => ['\\', 'f']
  | '\n' => ['\\', 'n']
  | '\r' => ['\\', 'r']
  | '\t' => ['\\', 't']
  | c =>
      if c.toNat < 0x20 then
        ['\\', 'u', '0', '0', hexDigit (c.toNat / 16), hexDigit (c.toNat % 16)]
      else [c]

def stringChars (text : List Char) : List Char :=
  '"' :: text.flatMap escapeChar ++ ['"']

def stringText (text : String) : String := String.ofList (stringChars text.toList)

/-- The text of a value that holds no other values. -/
def leafChars : Json → List Char
  | .null => ['n', 'u', 'l', 'l']
  | .bool true => ['t', 'r', 'u', 'e']
  | .bool false => ['f', 'a', 'l', 's', 'e']
  | .integer n => (Decimal.ofInt n).toList
  | .float x => (numberLayout.text x).toList
  | .string s => stringChars s.toList
  | .array _ => []
  | .object _ => []

mutual

/-- A value in one line. -/
def compactChars : Json → List Char
  | .array items => '[' :: compactItems items ++ [']']
  | .object members => '\x7b' :: compactMembers members ++ ['\x7d']
  | leaf => leafChars leaf

def compactItems : List Json → List Char
  | [] => []
  | [item] => compactChars item
  | item :: rest => compactChars item ++ ',' :: compactItems rest

def compactMembers : List (String × Json) → List Char
  | [] => []
  | [(name, value)] => stringChars name.toList ++ ':' :: compactChars value
  | (name, value) :: rest =>
      stringChars name.toList ++ ':' :: compactChars value ++ ',' :: compactMembers rest

end

/-- A value as JSON text in one line without spaces. -/
def compact (value : Json) : String := String.ofList (compactChars value)

/-- The start of a line nested `depth` levels deep. -/
def newLine (depth : Nat) : List Char := '\n' :: List.replicate (2 * depth) ' '

mutual

/-- A value on indented lines; an empty array or object stays in one piece. -/
def prettyChars (depth : Nat) : Json → List Char
  | .array [] => ['[', ']']
  | .array items => '[' :: prettyItems (depth + 1) items ++ newLine depth ++ [']']
  | .object [] => ['\x7b', '\x7d']
  | .object members =>
      '\x7b' :: prettyMembers (depth + 1) members ++ newLine depth ++ ['\x7d']
  | leaf => leafChars leaf

def prettyItems (depth : Nat) : List Json → List Char
  | [] => []
  | [item] => newLine depth ++ prettyChars depth item
  | item :: rest => newLine depth ++ prettyChars depth item ++ ',' :: prettyItems depth rest

def prettyMembers (depth : Nat) : List (String × Json) → List Char
  | [] => []
  | [(name, value)] =>
      newLine depth ++ stringChars name.toList ++ ':' :: ' ' :: prettyChars depth value
  | (name, value) :: rest =>
      newLine depth ++ stringChars name.toList ++ ':' :: ' ' :: prettyChars depth value ++
        ',' :: prettyMembers depth rest

end

/-- A value as JSON text on lines indented by two spaces a level. -/
def pretty (value : Json) : String := String.ofList (prettyChars 0 value)

end DesktopTrial.Json
