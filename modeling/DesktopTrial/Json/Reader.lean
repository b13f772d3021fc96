import DesktopTrial.Json.Written

/-!
# Reading JSON text

The grammar of JSON over lists of characters.  Each reader takes what it
understands from the front of the text and hands back the rest.
-/

namespace DesktopTrial.Json

def isSpace (c : Char) : Bool := c == ' ' || c == '\n' || c == '\t' || c == '\r'

def skipSpace (text : List Char) : List Char := text.dropWhile isSpace

def hexValue? (c : Char) : Option Nat :=
  if c.isDigit then some (c.toNat - 48)
  else if 'a' ≤ c ∧ c ≤ 'f' then some (c.toNat - 87)
  else if 'A' ≤ c ∧ c ≤ 'F' then some (c.toNat - 55)
  else none

def hexUnit? (a b c d : Char) : Option Nat :=
  match hexValue? a, hexValue? b, hexValue? c, hexValue? d with
  | some a, some b, some c, some d => some (((a * 16 + b) * 16 + c) * 16 + d)
  | _, _, _, _ => none

/-- The character that a one-letter escape stands for. -/
def escaped? (c : Char) : Option Char :=
  match c with
  | '"' => some '"'
  | '\\' => some '\\'
  | '/' => some '/'
  | 'b' => some '\x08'
  | 'f' => some '\x0c'
  | 'n' => some '\n'
  | 'r' => some '\r'
  | 't' => some '\t'
  | _ => none

/-- The code units of a string up to its closing quote, and the text behind it. -/
def readUnits? : List Char → Option (List Nat × List Char)
  | [] => none
  | '"' :: rest => some ([], rest)
  | '\\' :: 'u' :: a :: b :: c :: d :: rest =>
      match hexUnit? a b c d, readUnits? rest with
      | some unit, some (units, after) => some (unit :: units, after)
      | _, _ => none
  | '\\' :: c :: rest =>
      match escaped? c, readUnits? rest with
      | some c, some (units, after) => some (c.toNat :: units, after)
      | _, _ => none
  | c :: rest =>
      if c.toNat < 0x20 then none
      else (readUnits? rest).map fun result => (c.toNat :: result.1, result.2)

/-- Code units as characters; halves of surrogate pairs must meet. -/
def joinUnits? : List Nat → Option (List Char)
  | [] => some []
  | unit :: rest =>
      if 0xD800 ≤ unit ∧ unit < 0xDC00 then
        match rest with
        | low :: rest =>
            if 0xDC00 ≤ low ∧ low < 0xE000 then
              (joinUnits? rest).map
                (Char.ofNat (0x10000 + (unit - 0xD800) * 0x400 + (low - 0xDC00)) :: ·)
            else none
        | [] => none
      else if 0xDC00 ≤ unit ∧ unit < 0xE000 then none
      else (joinUnits? rest).map (Char.ofNat unit :: ·)

/-- A string behind its opening quote. -/
def readString? (text : List Char) : Option (Option String × List Char) :=
  (readUnits? text).map fun result => ((joinUnits? result.1).map String.ofList, result.2)

/-- An exponent behind its mark: a sign that may be missing, then digits. -/
def readExponentPart? (text : List Char) : Option (Int × List Char) :=
  let (negative, body) := match text with
    | '-' :: rest => (true, rest)
    | '+' :: rest => (false, rest)
    | rest => (false, rest)
  let ds := body.takeWhile Char.isDigit
  if ds.isEmpty then none
  else
    let n := Decimal.digitsValue 0 ds
    some (if negative then -n else n, body.dropWhile Char.isDigit)

/-- What follows the whole part and the fraction of a number. -/
def readNumberTail? (negative : Bool) (whole fraction : List Char) (pointed : Bool)
    (text : List Char) : Option (NumberText × List Char) :=
  match text with
  | c :: rest =>
      if c == 'e' || c == 'E' then
        (readExponentPart? rest).map fun result =>
          (⟨⟨negative, whole, fraction, result.1⟩, false⟩, result.2)
      else some (⟨⟨negative, whole, fraction, 0⟩, !pointed⟩, text)
  | [] => some (⟨⟨negative, whole, fraction, 0⟩, !pointed⟩, [])

/-- A number literal.  Its whole part has no leading zero, and digits stand on
both sides of a point. -/
def readNumber? (text : List Char) : Option (NumberText × List Char) :=
  let (negative, body) := match text with
    | '-' :: rest => (true, rest)
    | rest => (false, rest)
  let whole := body.takeWhile Char.isDigit
  let rest := body.dropWhile Char.isDigit
  if whole.isEmpty || (whole.length > 1 && whole.head? == some '0') then none
  else match rest with
    | '.' :: more =>
        let fraction := more.takeWhile Char.isDigit
        if fraction.isEmpty then none
        else readNumberTail? negative whole fraction true (more.dropWhile Char.isDigit)
    | rest => readNumberTail? negative whole [] false rest

mutual

/-- A value at the front of the text.  `fuel` bounds the nesting and the number
of items; the length of the text is always enough. -/
def readValue? : Nat → List Char → Option (Written × List Char)
  | 0, _ => none
  | fuel + 1, text =>
      match skipSpace text with
      | 'n' :: 'u' :: 'l' :: 'l' :: rest => some (.null, rest)
      | 't' :: 'r' :: 'u' :: 'e' :: rest => some (.bool true, rest)
      | 'f' :: 'a' :: 'l' :: 's' :: 'e' :: rest => some (.bool false, rest)
      | '"' :: rest => (readString? rest).map fun result => (.string result.1, result.2)
      | '[' :: rest =>
          match skipSpace rest with
          | ']' :: rest => some (.array [], rest)
          | rest => (readItems? fuel rest).map fun result => (.array result.1, result.2)
      | '\x7b' :: rest =>
          match skipSpace rest with
          | '\x7d' :: rest => some (.object [], rest)
          | rest => (readMembers? fuel rest).map fun result => (.object result.1, result.2)
      | text => (readNumber? text).map fun result => (.number result.1, result.2)

/-- The items of an array that is not empty, up to its closing bracket. -/
def readItems? : Nat → List Char → Option (List Written × List Char)
  | 0, _ => none
  | fuel + 1, text =>
      match readValue? fuel text with
      | none => none
      | some (item, rest) =>
          match skipSpace rest with
          | ']' :: rest => some ([item], rest)
          | ',' :: rest =>
              (readItems? fuel rest).map fun result => (item :: result.1, result.2)
          | _ => none

/-- The members of an object that is not empty, up to its closing brace. -/
def readMembers? : Nat → List Char → Option (List (Option String × Written) × List Char)
  | 0, _ => none
  | fuel + 1, text =>
      match skipSpace text with
      | '"' :: rest =>
          match readString? rest with
          | none => none
          | some (name, rest) =>
              match skipSpace rest with
              | ':' :: rest =>
                  match readValue? fuel rest with
                  | none => none
                  | some (value, rest) =>
                      match skipSpace rest with
                      | '\x7d' :: rest => some ([(name, value)], rest)
                      | ',' :: rest =>
                          (readMembers? fuel rest).map fun result =>
                            ((name, value) :: result.1, result.2)
                      | _ => none
              | _ => none
      | _ => none

end

/-- Reads a text that holds one value and nothing else. -/
def read? (text : String) : Option Written :=
  match readValue? (text.length + 1) text.toList with
  | some (value, rest) => if (skipSpace rest).isEmpty then some value else none
  | none => none

end DesktopTrial.Json
