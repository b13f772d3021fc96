import DesktopTrial.Yaml.Place
import DesktopTrial.Yaml.Node

/-!
# The text of scalars

How plain, quoted and block scalars give their text.  Line breaks inside plain
and quoted scalars are folded: a single one becomes a space, and of several the
first is dropped.  Block scalars keep or fold their lines and chomp what is left
at the end.
-/

namespace DesktopTrial.Yaml

/-- Spaces and line breaks between two words of a scalar. -/
structure Gap where
  /-- Spaces and tabs, as long as there is no line break. -/
  spaces : List Char
  broken : Bool
  /-- The first line break, unless it was escaped. -/
  first : Option (List Char)
  /-- The line breaks behind the first. -/
  more : List Char

namespace Gap

def none : Gap := ⟨[], false, Option.none, []⟩

def escaped : Gap := ⟨[], true, Option.none, []⟩

def text (gap : Gap) : List Char :=
  if !gap.broken then gap.spaces
  else match gap.first with
    | some ['\n'] => if gap.more.isEmpty then [' '] else gap.more
    | some first => first ++ gap.more
    | Option.none => gap.more

def addSpace (c : Char) (gap : Gap) : Gap :=
  if gap.broken then gap else { gap with spaces := gap.spaces ++ [c] }

def addBreak (breakText : List Char) (gap : Gap) : Gap :=
  if gap.broken then { gap with more := gap.more ++ breakText }
  else ⟨[], true, some breakText, []⟩

end Gap

/-- Reads a gap.  Behind a line break, a tab in a column below `indent` is
refused. -/
def readGap? (indent : Nat) : Nat → Place → Gap → Option (Place × Gap)
  | 0, p, gap => some (p, gap)
  | fuel + 1, p, gap =>
      match p.rest with
      | [] => some (p, gap)
      | c :: _ =>
          if isGap c then
            if gap.broken && p.column < indent && c == '\t' then Option.none
            else readGap? indent fuel p.next (gap.addSpace c)
          else if isLineBreak c then
            readGap? indent fuel p.nextLine (gap.addBreak p.breakText)
          else some (p, gap)

/-- What a scanned scalar hands on: its text, where it ends, and whether a line
break was passed behind its last word. -/
structure ScalarEnd where
  text : List Char
  place : Place
  broken : Bool

/-- The characters that end a plain scalar inside brackets and braces. -/
def isFlowMark (c : Char) : Bool :=
  c == ',' || c == '[' || c == ']' || c == '\x7b' || c == '\x7d'

/-- The characters of a plain scalar up to the next gap or indicator. -/
def plainWord? (inFlow : Bool) : List Char → Option (List Char)
  | [] => some []
  | c :: rest =>
      if isGap c || isLineBreak c then some []
      else if inFlow && c == ':' && rest.head?.any (fun d => isFlowMark d || d == '?') then
        none
      else if (c == ':' && endsWord rest) || (inFlow && isFlowMark c) then some []
      else (plainWord? inFlow rest).map (c :: ·)

/-- A plain scalar, whose lines are indented by at least `indent`. -/
def readPlain? (inFlow : Bool) (indent : Nat) :
    Nat → Place → List Char → Gap → Option ScalarEnd
  | 0, _, _, _ => none
  | fuel + 1, p, text, gap =>
      if p.atDocumentMark || p.rest.head? == some '#' then some ⟨text, p, gap.broken⟩
      else match plainWord? inFlow p.rest with
        | none => none
        | some word =>
            let text := if word.isEmpty then text else text ++ gap.text ++ word
            let gap := if word.isEmpty then gap else Gap.none
            let p := p.advance word.length
            match p.rest with
            | [] => some ⟨text, p, gap.broken⟩
            | c :: _ =>
                if !(isGap c || isLineBreak c) then some ⟨text, p, gap.broken⟩
                else match readGap? indent p.rest.length p Gap.none with
                  | none => none
                  | some (p, gap) =>
                      if !inFlow && p.column < indent then some ⟨text, p, gap.broken⟩
                      else readPlain? inFlow indent fuel p text gap

def escapeLetter? (c : Char) : Option Char :=
  match c with
  | '0' => some '\x00'
  | 'a' => some '\x07'
  | 'b' => some '\x08'
  | 't' => some '\t'
  | '\t' => some '\t'
  | 'n' => some '\n'
  | 'v' => some '\x0b'
  | 'f' => some '\x0c'
  | 'r' => some '\r'
  | 'e' => some '\x1b'
  | ' ' => some ' '
  | '"' => some '"'
  | '/' => some '/'
  | '\\' => some '\\'
  | 'N' => some '\u0085'
  | '_' => some '\u00a0'
  | 'L' => some '\u2028'
  | 'P' => some '\u2029'
  | _ => none

def escapeWidth? (c : Char) : Option Nat :=
  match c with
  | 'x' => some 2
  | 'u' => some 4
  | 'U' => some 8
  | _ => none

def codeChar? (ds : List Char) (width : Nat) : Option Char :=
  if ds.length ≠ width then none
  else match ds.foldlM (fun n d => (Json.hexValue? d).map (16 * n + ·)) 0 with
    | none => none
    | some code =>
        if (0xD800 ≤ code && code < 0xE000) || 0x10FFFF < code then none
        else some (Char.ofNat code)

/-- The characters of a quoted scalar up to the next gap or the closing quote,
and whether the run ends with an escaped line break. -/
def readQuotedRun? (single : Bool) : Nat → Place → List Char →
    Option (List Char × Place × Bool)
  | 0, _, _ => none
  | fuel + 1, p, run =>
      match p.rest with
      | [] => some (run, p, false)
      | c :: rest =>
          if isGap c || isLineBreak c then some (run, p, false)
          else if single then
            if c == '\'' then
              if rest.head? == some '\'' then
                readQuotedRun? single fuel (p.advance 2) (run ++ ['\''])
              else some (run, p, false)
            else readQuotedRun? single fuel p.next (run ++ [c])
          else if c == '"' then some (run, p, false)
          else if c == '\\' then
            match rest with
            | [] => none
            | d :: rest =>
                if isLineBreak d then some (run, p.next.nextLine, true)
                else match escapeWidth? d with
                  | some width =>
                      match codeChar? (rest.take width) width with
                      | some c => readQuotedRun? single fuel (p.advance (2 + width)) (run ++ [c])
                      | none => none
                  | none =>
                      match escapeLetter? d with
                      | some c => readQuotedRun? single fuel (p.advance 2) (run ++ [c])
                      | none => none
          else readQuotedRun? single fuel p.next (run ++ [c])

def readQuoted? (single : Bool) : Nat → Place → List Char → Option ScalarEnd
  | 0, _, _ => none
  | fuel + 1, p, text =>
      if p.atDocumentMark || p.rest.isEmpty then none
      else match readQuotedRun? single (p.rest.length + 1) p [] with
        | none => none
        | some (run, p, escaped) =>
            if !escaped && p.rest.head? == some (if single then '\'' else '"') then
              some ⟨text ++ run, p.next, false⟩
            else match readGap? 0 p.rest.length p (if escaped then Gap.escaped else Gap.none) with
              | none => none
              | some (p, gap) => readQuoted? single fuel p (text ++ run ++ gap.text)

/-- What a block scalar does with the line breaks at its end. -/
inductive Chomping where
  | strip
  | clip
  | keep
deriving DecidableEq

/-- The line breaks and the indentation before a line of a block scalar. -/
structure BlockIndent where
  place : Place
  breaks : List Char
  widest : Nat

/-- Skips indentation up to `indent` columns, or all of it while the indentation
is not settled, and collects the line breaks of empty lines. -/
def readBlockIndent? (indent : Option Nat) : Nat → BlockIndent → Option BlockIndent
  | 0, _ => none
  | fuel + 1, b =>
      let spaces := (b.place.rest.takeWhile (· == ' ')).length
      let count := match indent with
        | some n => min spaces (n - b.place.column)
        | none => spaces
      let p := b.place.advance count
      let widest := max b.widest p.column
      let unsettled := match indent with
        | some n => p.column < n
        | none => true
      match p.rest with
      | c :: _ =>
          if unsettled && c == '\t' then none
          else if isLineBreak c then
            readBlockIndent? indent fuel ⟨p.nextLine, b.breaks ++ p.breakText, widest⟩
          else some ⟨p, b.breaks, widest⟩
      | [] => some ⟨p, b.breaks, widest⟩

/-- The lines of a block scalar: the text so far, the break behind its last line
and the breaks of the empty lines after it. -/
structure BlockText where
  text : List Char
  lastBreak : List Char
  breaks : List Char
  place : Place

/-- Reads the lines that stand at column `indent`.  `led` says that the line
before began with a space. -/
def readBlockLines? (literal : Bool) (indent : Nat) : Nat → Bool → BlockText → Option BlockText
  | 0, _, _ => none
  | fuel + 1, led, b =>
      match b.place.rest with
      | [] => some b
      | c :: _ =>
          if b.place.column ≠ indent then some b
          else
            let spaced := isGap c
            let joint :=
              if !literal && b.lastBreak == ['\n'] && !led && !spaced then
                if b.breaks.isEmpty then [' '] else []
              else b.lastBreak
            let line := b.place.rest.takeWhile fun c => !isLineBreak c
            let p := b.place.advance line.length
            match readBlockIndent? (some indent) (p.rest.length + 1) ⟨p.nextLine, [], 0⟩ with
            | none => none
            | some next =>
                readBlockLines? literal indent fuel spaced
                  ⟨b.text ++ joint ++ b.breaks ++ line, p.breakText, next.breaks, next.place⟩

/-- The header of a block scalar behind its indicator: how it is chomped and how
far it is indented, in either order. -/
def readBlockHeader? (p : Place) : Option (Chomping × Option Nat × Place) :=
  let chomping? (c : Char) : Option Chomping :=
    if c == '+' then some .keep else if c == '-' then some .strip else none
  let digit? (c : Char) : Option Nat := if c.isDigit then some (c.toNat - 48) else none
  match p.rest with
  | [] => some (.clip, none, p)
  | c :: rest =>
      match chomping? c, digit? c with
      | some chomping, _ =>
          match rest.head?.bind digit? with
          | some 0 => none
          | some n => some (chomping, some n, p.advance 2)
          | none => some (chomping, none, p.next)
      | none, some 0 => none
      | none, some n =>
          match rest.head?.bind chomping? with
          | some chomping => some (chomping, some n, p.advance 2)
          | none => some (.clip, some n, p.next)
      | none, none => some (.clip, none, p)

/-- A block scalar behind its indicator, inside a block indented by `parent`. -/
def readBlock? (literal : Bool) (parent : Int) (p : Place) : Option ScalarEnd :=
  match readBlockHeader? p with
  | none => none
  | some (chomping, increment, p) =>
      let p := p.skipWhile isGap
      let p := if p.rest.head? == some '#' then p.skipLineRest else p
      if !endsLine p.rest then none
      else
        let p := p.nextLine
        let given := increment.map fun n => (max parent 0).toNat + n
        match readBlockIndent? given (p.rest.length + 1) ⟨p, [], 0⟩ with
        | none => none
        | some lead =>
            let indent := given.getD (max lead.widest (max (parent + 1) 1).toNat)
            match readBlockLines? literal indent (lead.place.rest.length + 1) false
                ⟨[], [], lead.breaks, lead.place⟩ with
            | none => none
            | some b =>
                let tail := match chomping with
                  | .strip => []
                  | .clip => b.lastBreak
                  | .keep => b.lastBreak ++ b.breaks
                some ⟨b.text ++ tail, b.place, false⟩

end DesktopTrial.Yaml
