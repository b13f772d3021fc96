import DesktopTrial.Text.Search

/-!
# Paths of files

Paths are text.  Their components stand between slashes, and a path that begins
with a slash starts at the root.
-/

namespace DesktopTrial.Path

/-- The components of a path, empty ones included. -/
def split : List Char → List (List Char)
  | [] => [[]]
  | c :: rest =>
      if c = '/' then [] :: split rest
      else match split rest with
        | [] => [[c]]
        | component :: others => (c :: component) :: others

def isAbsolute (path : List Char) : Bool := path.head? == some '/'

/-- A path below a directory.  An absolute path stays what it is. -/
def joinChars (directory path : List Char) : List Char :=
  if isAbsolute path || directory.isEmpty then path
  else if directory.getLast? == some '/' then directory ++ path
  else directory ++ '/' :: path

def join (directory path : String) : String :=
  String.ofList (joinChars directory.toList path.toList)

/-- Drops slashes and single dots behind the last component of a reversed path,
but not the root. -/
def trimEnd : List Char → List Char
  | '/' :: [] => ['/']
  | '/' :: rest => trimEnd rest
  | '.' :: '/' :: rest => if rest.isEmpty then ['/'] else trimEnd rest
  | path => path

/-- The path without its last component; the root and the empty path have none. -/
def parentChars? (path : List Char) : Option (List Char) :=
  match trimEnd path.reverse with
  | [] => none
  | ['/'] => none
  | trimmed => some (trimEnd (trimmed.dropWhile (· != '/'))).reverse

def parent? (path : String) : Option String := (parentChars? path.toList).map String.ofList

end DesktopTrial.Path
