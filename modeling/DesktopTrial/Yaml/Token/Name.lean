import DesktopTrial.Yaml.ScalarText
import DesktopTrial.Yaml.Token

/-!
# Names in YAML

Anchors, tags and directives: the marks that carry a name.
-/

namespace DesktopTrial.Yaml

abbrev Scanned := Token × Place

/-- The characters that may stand directly behind the name of an anchor. -/
def endsAnchor (rest : List Char) : Bool :=
  endsWord rest || rest.head?.any fun c => "?:,]\x7d%@`".toList.contains c

def readAnchorName? (p : Place) : Option (String × Place) :=
  let name := p.rest.takeWhile isWordChar
  let after := p.advance name.length
  if name.isEmpty || !endsAnchor after.rest then none else some (String.ofList name, after)

/-- Characters of a tag.  Inside angle brackets, commas and square brackets are
allowed as well. -/
def isTagChar (bracketed : Bool) (c : Char) : Bool :=
  isWordChar c || ";/?:@&=+$.%!~*'()".toList.contains c ||
    (bracketed && ",[]".toList.contains c)

/-- The number of bytes in the character that starts with a byte. -/
def leadWidth (byte : Nat) : Nat :=
  if byte < 0x80 then 1
  else if 0xC0 ≤ byte && byte < 0xE0 then 2
  else if 0xE0 ≤ byte && byte < 0xF0 then 3
  else if 0xF0 ≤ byte && byte < 0xF8 then 4
  else 0

/-- A byte written as a percent sign and two hexadecimal digits. -/
def readEscapedByte? : List Char → Option (Nat × List Char)
  | '%' :: a :: b :: rest =>
      match Json.hexValue? a, Json.hexValue? b with
      | some a, some b => some (16 * a + b, rest)
      | _, _ => none
  | _ => none

/-- The bytes that continue a character. -/
def readContinuation? : Nat → List Nat → List Char → Option (List Nat × List Char)
  | 0, bytes, rest => some (bytes, rest)
  | count + 1, bytes, rest =>
      match readEscapedByte? rest with
      | some (byte, rest) =>
          if 0x80 ≤ byte && byte < 0xC0 then readContinuation? count (bytes ++ [byte]) rest
          else none
      | none => none

/-- A character written as escaped bytes. -/
def readEscapedChar? (text : List Char) : Option (List Char × List Char) :=
  match readEscapedByte? text with
  | none => none
  | some (byte, rest) =>
      match leadWidth byte with
      | 0 => none
      | width + 1 =>
          match readContinuation? width [byte] rest with
          | none => none
          | some (bytes, rest) =>
              (String.fromUTF8? ⟨(bytes.map Nat.toUInt8).toArray⟩).map fun text =>
                (text.toList, rest)

/-- The characters of a tag, escapes resolved. -/
def readTagChars? (bracketed : Bool) : Nat → List Char → Option (List Char × List Char)
  | 0, rest => some ([], rest)
  | fuel + 1, rest =>
      match rest with
      | [] => some ([], [])
      | c :: more =>
          if !isTagChar bracketed c then some ([], rest)
          else if c == '%' then
            match readEscapedChar? rest with
            | none => none
            | some (chars, rest) =>
                (readTagChars? bracketed fuel rest).map fun result =>
                  (chars ++ result.1, result.2)
          else (readTagChars? bracketed fuel more).map fun result => (c :: result.1, result.2)

def readTagText? (bracketed : Bool) (p : Place) : Option (List Char × Place) :=
  (readTagChars? bracketed p.rest.length p.rest).map fun result =>
    (result.1, p.advance (p.rest.length - result.2.length))

/-- An exclamation mark, word characters, and the closing exclamation mark when
there is one. -/
def readHandle? (p : Place) : Option (List Char × Place) :=
  match p.rest with
  | '!' :: rest =>
      let word := rest.takeWhile isWordChar
      let after := p.advance (word.length + 1)
      if after.rest.head? == some '!' then some ('!' :: word ++ ['!'], after.next)
      else some ('!' :: word, after)
  | _ => none

/-- A tag: a full one in angle brackets, or a handle and a suffix. -/
def readTag? (inFlow : Bool) (p : Place) : Option Scanned :=
  let finish (handle suffix : List Char) (p : Place) : Option Scanned :=
    if endsWord p.rest || (inFlow && p.rest.head? == some ',') then
      some (.tag (String.ofList handle) (String.ofList suffix), p)
    else none
  match p.rest with
  | '!' :: '<' :: _ =>
      match readTagText? true (p.advance 2) with
      | some (suffix, p) =>
          if suffix.isEmpty || p.rest.head? != some '>' then none
          else finish [] suffix p.next
      | none => none
  | _ =>
      match readHandle? p with
      | none => none
      | some (handle, after) =>
          match readTagText? false after with
          | none => none
          | some (suffix, after) =>
              if 1 < handle.length && handle.getLast? == some '!' then
                if suffix.isEmpty then none else finish handle suffix after
              else
                let word := handle.drop 1 ++ suffix
                if word.isEmpty then finish [] ['!'] after else finish ['!'] word after

def readVersionNumber? (p : Place) : Option (Nat × Place) :=
  let ds := p.rest.takeWhile Char.isDigit
  if ds.isEmpty || 9 < ds.length then none
  else some (Decimal.digitsValue 0 ds, p.advance ds.length)

def readVersion? (p : Place) : Option Scanned :=
  match readVersionNumber? (p.skipWhile isGap) with
  | none => none
  | some (major, p) =>
      if p.rest.head? != some '.' then none
      else match readVersionNumber? p.next with
        | none => none
        | some (minor, p) => some (.version major minor, p)

/-- The handle and its expansion behind the name of their directive. -/
def readTagHandle? (p : Place) : Option Scanned :=
  match readHandle? (p.skipWhile isGap) with
  | none => none
  | some (handle, p) =>
      if handle.getLast? != some '!' || !p.rest.head?.any isGap then none
      else match readTagText? true (p.skipWhile isGap) with
        | none => none
        | some (expansion, p) =>
            if expansion.isEmpty || !endsWord p.rest then none
            else some (.tagHandle (String.ofList handle) (String.ofList expansion), p)

/-- A directive behind its percent sign, up to the end of its line. -/
def readDirective? (p : Place) : Option Scanned :=
  let name := p.rest.takeWhile isWordChar
  let after := p.advance name.length
  if !endsWord after.rest then none
  else
    let scanned :=
      if name == "YAML".toList then readVersion? after
      else if name == "TAG".toList then readTagHandle? after
      else none
    match scanned with
    | none => none
    | some (token, p) =>
        let p := p.skipWhile isGap
        let p := if p.rest.head? == some '#' then p.skipLineRest else p
        if endsLine p.rest then some (token, p.nextLine) else none

end DesktopTrial.Yaml
