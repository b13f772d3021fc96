import DesktopTrial.Yaml.Character
import DesktopTrial.Yaml.Node
import DesktopTrial.Yaml.Scalar

/-!
# Presentation of text

In which style a text is written as a scalar, so that it is read back as the same
text.  A plain text must not look like another value, nor contain what the grammar
gives a meaning to; lines are written as a literal block; what cannot be printed is
escaped between double quotes.
-/

namespace DesktopTrial.Yaml

/-- Do two neighbours in the text satisfy the two predicates? -/
def hasNeighbors (p q : Char → Bool) : List Char → Bool
  | a :: b :: rest => (p a && q b) || hasNeighbors p q (b :: rest)
  | _ => false

/-- A blank, a line break, or the character that ends texts elsewhere. -/
def isBlankOrBreak (c : Char) : Bool := isGap c || isLineBreak c || c == '\x00'

def isSpace (c : Char) : Bool := c == ' '

/-- A space before a line break would be lost. -/
def hasSpaceBeforeBreak (text : List Char) : Bool := hasNeighbors isSpace isLineBreak text

/-- A space behind a line break would be taken for indentation. -/
def hasSpaceAfterBreak (text : List Char) : Bool := hasNeighbors isLineBreak isSpace text

def hasUnprintable (text : List Char) : Bool := text.any fun c => !isPrintable c

/-- Does a blank, a line break or nothing follow? -/
def endsToken : List Char → Bool
  | [] => true
  | c :: _ => isBlankOrBreak c

/-- Is some colon followed by a blank, a line break or nothing? -/
def hasClosingColon : List Char → Bool
  | [] => false
  | c :: rest => (c == ':' && endsToken rest) || hasClosingColon rest

/-- Characters that begin something else than a plain text. -/
def isOpeningMark (c : Char) : Bool :=
  ['#', ',', '[', ']', '{', '}', '&', '*', '!', '|', '>', '\'', '"', '%', '@', '\x60'].contains c

/-- Does the beginning of the text have a meaning of its own? -/
def opensOther (text : List Char) : Bool :=
  ['-', '-', '-'].isPrefixOf text || ['.', '.', '.'].isPrefixOf text || match text with
    | [] => false
    | c :: rest => isOpeningMark c || ((c == '?' || c == '-') && endsToken rest)

/-- Does the text contain what the grammar gives a meaning to? -/
def hasIndicator (text : List Char) : Bool :=
  opensOther text || hasClosingColon text || hasNeighbors isBlankOrBreak (· == '#') text

/-- Does a space or a line break stand at one of the ends? -/
def hasOpenEnd (text : List Char) : Bool :=
  let isOpen (c : Char) : Bool := isSpace c || isLineBreak c
  text.head?.any isOpen || text.getLast?.any isOpen

def plainAllowed (text : List Char) : Bool :=
  !hasOpenEnd text && !hasUnprintable text && !text.any isLineBreak && !hasIndicator text

def singleQuotesAllowed (text : List Char) : Bool :=
  !hasSpaceAfterBreak text && !hasSpaceBeforeBreak text && !hasUnprintable text

def literalAllowed (text : List Char) : Bool :=
  !text.getLast?.any isSpace && !hasSpaceBeforeBreak text && !hasUnprintable text

/-- Would the plain text be another value, or digits that are no number? -/
def isAmbiguous (text : String) : Bool :=
  match resolve text with
  | .text => isZeroPadded text.toList
  | _ => true

def presentation (text : String) : Style :=
  let chars := text.toList
  if chars.contains '\n' then if literalAllowed chars then .literal else .doubleQuoted
  else if !isAmbiguous text && plainAllowed chars then .plain
  else if singleQuotesAllowed chars then .singleQuoted
  else .doubleQuoted

def upperHexDigit (n : Nat) : Char := if n < 10 then Char.ofNat (48 + n) else Char.ofNat (55 + n)

/-- The last `width` hexadecimal digits of a number. -/
def upperHex : (width : Nat) → (n : Nat) → List Char
  | 0, _ => []
  | width + 1, n => upperHex width (n / 16) ++ [upperHexDigit (n % 16)]

/-- The letter behind a backslash that stands for a character. -/
def escapeLetterFor? (c : Char) : Option Char :=
  match c.toNat with
  | 0x00 => some '0'
  | 0x07 => some 'a'
  | 0x08 => some 'b'
  | 0x09 => some 't'
  | 0x0A => some 'n'
  | 0x0B => some 'v'
  | 0x0C => some 'f'
  | 0x0D => some 'r'
  | 0x1B => some 'e'
  | 0x22 => some '"'
  | 0x5C => some '\\'
  | 0x85 => some 'N'
  | 0xA0 => some '_'
  | 0x2028 => some 'L'
  | 0x2029 => some 'P'
  | _ => none

def escapeSequence (c : Char) : List Char :=
  '\\' :: match escapeLetterFor? c with
    | some letter => [letter]
    | none =>
        let n := c.toNat
        if n ≤ 0xFF then 'x' :: upperHex 2 n
        else if n ≤ 0xFFFF then 'u' :: upperHex 4 n
        else 'U' :: upperHex 8 n

def doubleQuoted (text : List Char) : List Char :=
  let write (c : Char) : List Char :=
    if !isPrintable c || isLineBreak c || c == '"' || c == '\\' then escapeSequence c else [c]
  '"' :: text.flatMap write ++ ['"']

def spaces (n : Nat) : List Char := List.replicate n ' '

/-- A text between single quotes, behind a line break or not.  A line begins with
the indentation. -/
def singleQuotedTail (indent : Nat) (atLineStart : Bool) : List Char → List Char
  | [] => if atLineStart then spaces indent ++ ['\''] else ['\'']
  | c :: rest =>
      if isLineBreak c then c :: singleQuotedTail indent true rest
      else (if atLineStart then spaces indent else []) ++
        (if c = '\'' then ['\'', '\''] else [c]) ++ singleQuotedTail indent false rest

/-- The lines of a literal block, each with its indentation, up to the end of the
last. -/
def literalLines (indent : Nat) (atLineStart : Bool) : List Char → List Char
  | [] => if atLineStart then [] else ['\n']
  | c :: rest =>
      if isLineBreak c then c :: literalLines indent true rest
      else (if atLineStart then spaces indent else []) ++ c :: literalLines indent false rest

/-- The mark of a literal block.  It tells the indentation when the first line
begins with a space or is empty, and what becomes of the line breaks at the end. -/
def literalMark (text : List Char) : List Char :=
  let hint := if text.head?.any fun c => isSpace c || isLineBreak c then ['2'] else []
  let chomping := match text.reverse with
    | [] => ['-']
    | last :: before =>
        if !isLineBreak last then ['-']
        else match before with
          | [] => ['+']
          | c :: _ => if isLineBreak c then ['+'] else []
  '|' :: hint ++ chomping

/-- A text as a scalar, up to the end of its line.  Further lines of the scalar are
indented. -/
def scalarLine (indent : Nat) (text : String) : List Char :=
  let chars := text.toList
  match presentation text with
  | .plain => chars ++ ['\n']
  | .singleQuoted => '\'' :: singleQuotedTail indent false chars ++ ['\n']
  | .doubleQuoted => doubleQuoted chars ++ ['\n']
  | _ => literalMark chars ++ '\n' :: literalLines indent true chars

end DesktopTrial.Yaml
