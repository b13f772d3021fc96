import DesktopTrial.Json.Reader
import DesktopTrial.Yaml.Character

/-!
# Places in a YAML text

What is still to be read of a text, with the line and column that decide about
indentation.  The readers here take single characters and line breaks.
-/

namespace DesktopTrial.Yaml

structure Place where
  /-- Characters read so far. -/
  offset : Nat
  line : Nat
  column : Nat
  rest : List Char

/-- Letters, digits, hyphen and underscore. -/
def isWordChar (c : Char) : Bool := c.isAlphanum || c == '-' || c == '_'

/-- Nothing, a space, a tab or a line break comes next. -/
def endsWord : List Char → Bool
  | [] => true
  | c :: _ => isGap c || isLineBreak c

/-- Nothing or a line break comes next. -/
def endsLine : List Char → Bool
  | [] => true
  | c :: _ => isLineBreak c

namespace Place

def start (text : List Char) : Place := ⟨0, 0, 0, text⟩

def next (p : Place) : Place :=
  ⟨p.offset + 1, p.line, p.column + 1, p.rest.drop 1⟩

def advance (p : Place) (count : Nat) : Place :=
  ⟨p.offset + count, p.line, p.column + count, p.rest.drop count⟩

/-- Behind a line break; a carriage return takes its line feed along. -/
def nextLine (p : Place) : Place :=
  match p.rest with
  | '\r' :: '\n' :: rest => ⟨p.offset + 2, p.line + 1, 0, rest⟩
  | _ :: rest => ⟨p.offset + 1, p.line + 1, 0, rest⟩
  | [] => p

/-- The characters that a line break leaves in a scalar. -/
def breakText (p : Place) : List Char :=
  match p.rest with
  | c :: _ => if c == '\u2028' || c == '\u2029' then [c] else ['\n']
  | [] => []

/-- Past the characters of a class on this line. -/
def skipWhile (p : Place) (class? : Char → Bool) : Place :=
  p.advance (p.rest.takeWhile class?).length

/-- Past what is left of the line. -/
def skipLineRest (p : Place) : Place := p.skipWhile fun c => !isLineBreak c

/-- Is the mark of a document's start or end written at the start of this line? -/
def atDocumentMark (p : Place) : Bool :=
  p.column == 0 &&
    match p.rest with
    | '-' :: '-' :: '-' :: rest => endsWord rest
    | '.' :: '.' :: '.' :: rest => endsWord rest
    | _ => false

end Place

end DesktopTrial.Yaml
