/-!
# Searching and cutting text

Substrings of lists of characters, and the pieces of a text around the first
place where a word or a class of characters occurs.
-/

namespace DesktopTrial.Text

def occursIn (word : List Char) : List Char → Bool
  | [] => word.isEmpty
  | c :: rest => word.isPrefixOf (c :: rest) || occursIn word rest

def contains (text word : String) : Bool := occursIn word.toList text.toList

def startsWith (text word : String) : Bool := word.toList.isPrefixOf text.toList

/-- What stands before and after the first occurrence of `word`. -/
def splitOnce? (word : List Char) : List Char → Option (List Char × List Char)
  | [] => if word.isEmpty then some ([], []) else none
  | c :: rest =>
      if word.isPrefixOf (c :: rest) then some ([], (c :: rest).drop word.length)
      else (splitOnce? word rest).map fun parts => (c :: parts.1, parts.2)

end DesktopTrial.Text
