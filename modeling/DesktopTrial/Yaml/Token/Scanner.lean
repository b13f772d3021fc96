import DesktopTrial.Yaml.Token.Name

/-!
# Scanning YAML text

The text is read once from left to right.  A scalar may turn out to be a key only
when the colon behind it is met; until then it is remembered as a candidate, and
the marks that make it a key are put in front of it afterwards.
-/

namespace DesktopTrial.Yaml

/-- A token that becomes a key when a colon follows on its line. -/
structure KeyCandidate where
  /-- The indentation asks for a key here. -/
  required : Bool
  /-- The number of tokens before it. -/
  position : Nat
  offset : Nat
  line : Nat
  column : Nat

structure Scan where
  place : Place
  /-- The tokens found so far, the last one first. -/
  tokens : List Token
  /-- The indentation of the enclosing blocks, innermost first. -/
  indents : List Nat
  /-- May the next token start a key? -/
  keyAllowed : Bool
  /-- The candidate of the block. -/
  candidate : Option KeyCandidate
  /-- The candidates of the brackets and braces around the place, innermost
  first. -/
  flow : List (Option KeyCandidate)

namespace Scan

def start (text : List Char) : Scan := ⟨Place.start text, [], [], true, none, []⟩

def inFlow (s : Scan) : Bool := !s.flow.isEmpty

/-- The column of the innermost block, one left of the margin outside all. -/
def indent (s : Scan) : Int := (s.indents.head?.map Int.ofNat).getD (-1)

def push (token : Token) (s : Scan) : Scan := { s with tokens := token :: s.tokens }

/-- Puts a token in front of the one at a position. -/
def insertAt (position : Nat) (token : Token) (s : Scan) : Scan :=
  { s with tokens := s.tokens.insertIdx (s.tokens.length - position) token }

def currentCandidate (s : Scan) : Option KeyCandidate :=
  match s.flow with
  | candidate :: _ => candidate
  | [] => s.candidate

def setCandidate (candidate : Option KeyCandidate) (s : Scan) : Scan :=
  match s.flow with
  | _ :: rest => { s with flow := candidate :: rest }
  | [] => { s with candidate }

/-- Gives up the current candidate, which must not be a required key. -/
def dropCandidate? (s : Scan) : Option Scan :=
  if s.currentCandidate.any (·.required) then none else some (s.setCandidate none)

/-- Remembers the coming token as a candidate where a key may start. -/
def saveCandidate? (s : Scan) : Option Scan :=
  if s.keyAllowed then
    s.dropCandidate?.map fun s => s.setCandidate (some
      { required := !s.inFlow && s.indent == s.place.column
        position := s.tokens.length
        offset := s.place.offset
        line := s.place.line
        column := s.place.column })
  else some s

/-- A candidate is out of date on a later line or far behind on its own. -/
def isStale (p : Place) (candidate : KeyCandidate) : Bool :=
  candidate.line < p.line || candidate.offset + 1024 < p.offset

/-- Gives up the candidates that are out of date. -/
def dropStale? (s : Scan) : Option Scan :=
  let stale (candidate : Option KeyCandidate) : Bool := candidate.any (isStale s.place)
  let fresh (candidate : Option KeyCandidate) : Option KeyCandidate :=
    if stale candidate then none else candidate
  let lost (candidate : Option KeyCandidate) : Bool :=
    stale candidate && candidate.any (·.required)
  if lost s.candidate || s.flow.any lost then none
  else some { s with candidate := fresh s.candidate, flow := s.flow.map fresh }

/-- Closes the blocks that are indented further than a column. -/
def closeBlocks (column : Int) (s : Scan) : Scan :=
  if s.inFlow then s
  else
    let closed := s.indents.takeWhile fun indent => column < Int.ofNat indent
    { s with
      tokens := List.replicate closed.length .blockEnd ++ s.tokens
      indents := s.indents.drop closed.length }

/-- Opens a block at a column when it is indented further than the current one.
Its mark goes in front of the token at `position`. -/
def openBlock (column : Nat) (position : Nat) (token : Token) (s : Scan) : Scan :=
  if s.inFlow || Int.ofNat column ≤ s.indent then s
  else { s.insertAt position token with indents := column :: s.indents }

def emit (token : Token) (width : Nat) (s : Scan) : Scan :=
  { s.push token with place := s.place.advance width }

/-- Closes every block, at the marks that end or start documents. -/
def leaveBlocks? (s : Scan) : Option Scan :=
  (s.closeBlocks (-1)).dropCandidate?.map fun s => { s with keyAllowed := false }

/-- Past spaces, comments and line breaks, up to the next token. -/
def skipToToken : Nat → Scan → Scan
  | 0, s => s
  | fuel + 1, s =>
      let p := s.place.skipWhile fun c =>
        c == ' ' || ((s.inFlow || !s.keyAllowed) && c == '\t')
      let p := if p.rest.head? == some '#' then p.skipLineRest else p
      match p.rest with
      | c :: _ =>
          if isLineBreak c then
            skipToToken fuel
              { s with place := p.nextLine, keyAllowed := s.keyAllowed || !s.inFlow }
          else { s with place := p }
      | [] => { s with place := p }

def openFlow? (token : Token) (s : Scan) : Option Scan :=
  s.saveCandidate?.map fun s =>
    { s.emit token 1 with keyAllowed := true, flow := none :: s.flow }

def closeFlow? (token : Token) (s : Scan) : Option Scan :=
  s.dropCandidate?.map fun s =>
    { s.emit token 1 with keyAllowed := false, flow := s.flow.drop 1 }

/-- A hyphen that starts an item. -/
def blockEntry? (s : Scan) : Option Scan :=
  if !s.inFlow && !s.keyAllowed then none
  else (s.openBlock s.place.column s.tokens.length .blockSequenceStart).dropCandidate?.map
    fun s => { s.emit .blockEntry 1 with keyAllowed := true }

/-- A question mark that starts a key. -/
def key? (s : Scan) : Option Scan :=
  if !s.inFlow && !s.keyAllowed then none
  else (s.openBlock s.place.column s.tokens.length .blockMappingStart).dropCandidate?.map
    fun s => { s.emit .key 1 with keyAllowed := !s.inFlow }

/-- A colon.  With a candidate before it, that one becomes the key. -/
def value? (s : Scan) : Option Scan :=
  match s.currentCandidate with
  | some candidate =>
      let s := s.insertAt candidate.position .key
      let s := s.openBlock candidate.column candidate.position .blockMappingStart
      some { (s.setCandidate none).emit .value 1 with keyAllowed := false }
  | none =>
      if !s.inFlow && !s.keyAllowed then none
      else
        let s := s.openBlock s.place.column s.tokens.length .blockMappingStart
        some { s.emit .value 1 with keyAllowed := !s.inFlow }

/-- A token that may itself be a key: an anchor, an alias or a tag. -/
def named? (scanned : Option Scanned) (s : Scan) : Option Scan :=
  match s.saveCandidate?, scanned with
  | some s, some (token, place) => some { s.push token with place, keyAllowed := false }
  | _, _ => none

def scalar? (style : Style) (scanned : Option ScalarEnd) (s : Scan) : Option Scan :=
  match s.saveCandidate?, scanned with
  | some s, some result =>
      some { s.push (.scalar style (String.ofList result.text)) with
             place := result.place, keyAllowed := result.broken }
  | _, _ => none

/-- A block scalar, which is never a key. -/
def blockScalar? (style : Style) (s : Scan) : Option Scan :=
  match s.dropCandidate?, readBlock? (style == .literal) s.indent s.place.next with
  | some s, some result =>
      some { s.push (.scalar style (String.ofList result.text)) with
             place := result.place, keyAllowed := true }
  | _, _ => none

/-- Characters that cannot start a plain scalar. -/
def isIndicator (c : Char) : Bool := "-?:,[]\x7b\x7d#&*!|>'\"%@`".toList.contains c

/-- May a plain scalar start with `c` before `rest`? -/
def startsPlain (inFlow : Bool) (c : Char) (rest : List Char) : Bool :=
  !(isGap c || isLineBreak c || isIndicator c) ||
    (c == '-' && !rest.head?.any isGap) ||
    (!inFlow && (c == '?' || c == ':') && !endsWord rest)

def token? (c : Char) (rest : List Char) (s : Scan) : Option Scan :=
  let p := s.place
  if p.column == 0 && c == '%' then
    match s.leaveBlocks?, readDirective? p.next with
    | some s, some (token, place) => some { s.push token with place }
    | _, _ => none
  else if p.atDocumentMark then
    s.leaveBlocks?.map fun s =>
      s.emit (if c == '-' then .documentStart else .documentEnd) 3
  else if c == '[' then s.openFlow? .flowSequenceStart
  else if c == '\x7b' then s.openFlow? .flowMappingStart
  else if c == ']' then s.closeFlow? .flowSequenceEnd
  else if c == '\x7d' then s.closeFlow? .flowMappingEnd
  else if c == ',' then
    s.dropCandidate?.map fun s => { s.emit .flowEntry 1 with keyAllowed := true }
  else if c == '-' && endsWord rest then s.blockEntry?
  else if c == '?' && (s.inFlow || endsWord rest) then s.key?
  else if c == ':' && (s.inFlow || endsWord rest) then s.value?
  else if c == '*' then
    s.named? ((readAnchorName? p.next).map fun result => (.alias result.1, result.2))
  else if c == '&' then
    s.named? ((readAnchorName? p.next).map fun result => (.anchor result.1, result.2))
  else if c == '!' then s.named? (readTag? s.inFlow p)
  else if c == '|' && !s.inFlow then s.blockScalar? .literal
  else if c == '>' && !s.inFlow then s.blockScalar? .folded
  else if c == '\'' then
    s.scalar? .singleQuoted (readQuoted? true (p.rest.length + 1) p.next [])
  else if c == '"' then
    s.scalar? .doubleQuoted (readQuoted? false (p.rest.length + 1) p.next [])
  else if startsPlain s.inFlow c rest then
    s.scalar? .plain
      (readPlain? s.inFlow (s.indent + 1).toNat (p.rest.length + 1) p [] Gap.none)
  else none

def run? : Nat → Scan → Option (List Token)
  | 0, _ => none
  | fuel + 1, s =>
      match (s.skipToToken (s.place.rest.length + 1)).dropStale? with
      | none => none
      | some s =>
          let s := s.closeBlocks s.place.column
          match s.place.rest with
          | [] => s.leaveBlocks?.map fun s => s.tokens.reverse
          | c :: rest =>
              match s.token? c rest with
              | none => none
              | some s => run? fuel s

end Scan

def scan? (text : List Char) : Option (List Token) :=
  if text.all isAllowed then
    let text := match text with
      | '\ufeff' :: rest => rest
      | _ => text
    (Scan.start text).run? (text.length + 1)
  else none

end DesktopTrial.Yaml
