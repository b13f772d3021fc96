import DesktopTrial.Text.LetterCase

/-!
# Lower case

The lower-case form of text.  It is not made letter by letter: a capital sigma
at the end of a word becomes the final form, so what stands before and after it
decides, and the dotted capital `İ` becomes two characters.
-/

namespace DesktopTrial.Text

/-- The first character that the rules of case do not look past is a letter with
case. -/
def meetsCased : List Char → Bool
  | [] => false
  | c :: rest => if isCaseIgnorable c then meetsCased rest else isCased c

/-- The lower-case form of `c` between the characters `before`, nearest first,
and the characters `after`. -/
def lowerBetween (before : List Char) (c : Char) (after : List Char) : List Char :=
  if c = 'Σ' then
    if meetsCased before && !meetsCased after then ['ς'] else ['σ']
  else if c = 'İ' then ['i', '\u0307']
  else [lowerChar c]

def lowercaseAfter (before : List Char) : List Char → List Char
  | [] => []
  | c :: rest => lowerBetween before c rest ++ lowercaseAfter (c :: before) rest

def lowercaseChars (text : List Char) : List Char := lowercaseAfter [] text

/-- The lower-case form of text. -/
def lowercase (text : String) : String := String.ofList (lowercaseChars text.toList)

example : lowercase "ΑΣ" = "ας" := by decide +kernel
example : lowercase "ΑΣΑ" = "ασα" := by decide +kernel

end DesktopTrial.Text
