import DesktopTrial.Document
import DesktopTrial.Yaml.Presentation

/-!
# YAML text

Documents as YAML text in block style, two columns to a level.  A sequence stands
in the column of the key it belongs to; a variant is a tag in front of its content.
-/

namespace DesktopTrial.Yaml

/-- Numbers in YAML: a point or an exponent is always there, and the exponent is
used below `1e-5` and from `1e16` on. -/
def numberLayout : Decimal.Layout where
  positional lead := -5 ≤ lead && lead < 16
  pointZero := true
  exponentPlus := false
  tie := .even
  nan := ".nan"
  infinity := ".inf"
  negativeInfinity := "-.inf"

/-- Where a value begins: behind its key or a tag, or behind a mark that leaves room
for more on the same line. -/
inductive Opening where
  | afterKey
  | afterMark
  | afterTag
deriving DecidableEq, Repr

/-- Can a key stand in front of its colon on one line? -/
def isSimpleKey (key : String) : Bool :=
  !key.toList.any isLineBreak && key.utf8ByteSize ≤ 128

def restOfLine (word : List Char) : List Char := ' ' :: word ++ ['\n']

mutual

/-- What follows the key or mark of a value, up to the end of its last line.
`indent` is the column of the collection that the value stands in. -/
def valueChars (indent : Nat) (opening : Opening) : Document → List Char
  | .null => restOfLine "null".toList
  | .bool value => restOfLine (if value then "true".toList else "false".toList)
  | .integer value => restOfLine (Decimal.ofInt value).toList
  | .float value => restOfLine (numberLayout.text value).toList
  | .text value => ' ' :: scalarLine (indent + 2) value
  | .sequence [] => restOfLine ['[', ']']
  | .sequence (item :: rest) =>
      match opening with
      | .afterKey => '\n' :: itemsChars indent false (item :: rest)
      | .afterMark => ' ' :: itemsChars (indent + 2) true (item :: rest)
      | .afterTag => '\n' :: itemsChars (indent + 2) false (item :: rest)
  | .mapping [] => restOfLine ['{', '}']
  | .mapping (member :: rest) =>
      match opening with
      | .afterMark => ' ' :: membersChars (indent + 2) true (member :: rest)
      | _ => '\n' :: membersChars (indent + 2) false (member :: rest)
  | .variant name content => ' ' :: '!' :: name.toList ++ valueChars indent
      (if opening = .afterMark then .afterTag else opening) content

/-- The items of a sequence in a column; the first may stand on a line begun
before. -/
def itemsChars (indent : Nat) (inline : Bool) : List Document → List Char
  | [] => []
  | item :: rest =>
      (if inline then [] else spaces indent) ++ '-' :: valueChars indent .afterMark item ++
        itemsChars indent false rest

/-- The members of a mapping in a column. -/
def membersChars (indent : Nat) (inline : Bool) : List (String × Document) → List Char
  | [] => []
  | (key, value) :: rest =>
      (if inline then [] else spaces indent) ++
        (if isSimpleKey key then
          (scalarLine (indent + 2) key).dropLast ++ ':' :: valueChars indent .afterKey value
        else
          '?' :: ' ' :: scalarLine (indent + 2) key ++ spaces indent ++
            ':' :: valueChars indent .afterMark value) ++
        membersChars indent false rest

end

def print (document : Document) : String :=
  String.ofList <|
    match document with
    | .sequence (item :: rest) => itemsChars 0 true (item :: rest)
    | .mapping (member :: rest) => membersChars 0 true (member :: rest)
    | other => (valueChars 0 .afterKey other).drop 1

end DesktopTrial.Yaml
