import DesktopTrial.Text.Graphic

/-!
# Quoted text

Text as it is shown inside messages: between double quotes, with every character
that cannot be shown by itself written as an escape.
-/

namespace DesktopTrial.Text

def hexDigits (n : Nat) : List Char := Nat.toDigits 16 n

def quotedChar (c : Char) : List Char :=
  match c with
  | '"' => ['\\', '"']
  | '\\' => ['\\', '\\']
  | '\n' => ['\\', 'n']
  | '\r' => ['\\', 'r']
  | '\t' => ['\\', 't']
  | '\x00' => ['\\', '0']
  | c =>
      if isGraphic c then [c]
      else ['\\', 'u', '\x7b'] ++ hexDigits c.toNat ++ ['\x7d']

def quotedChars (text : List Char) : List Char :=
  '"' :: text.flatMap quotedChar ++ ['"']

/-- The text between double quotes, with escapes. -/
def quoted (text : String) : String := String.ofList (quotedChars text.toList)

end DesktopTrial.Text
