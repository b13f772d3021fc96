import DesktopTrial.Text.Search

/-!
# URLs

The parts of an absolute URL that routes are compared by.  A URL is read from the
left: a scheme up to `://`, an authority up to the first slash, and a path up to
a query or fragment.
-/

namespace DesktopTrial.Url

def schemeMark : List Char := [':', '/', '/']

/-- What stands behind the scheme, or all of a text without one. -/
def afterScheme (url : List Char) : List Char :=
  match Text.splitOnce? schemeMark url with
  | some (_, rest) => rest
  | none => url

/-- Is this the start of a query or a fragment? -/
def endsPath (c : Char) : Bool := c == '?' || c == '#'

def pathChars (url : List Char) : List Char :=
  match (afterScheme url).dropWhile (· != '/') with
  | [] => ['/']
  | rest => rest.takeWhile fun c => !endsPath c

/-- The path of a URL.  Without a slash behind the authority it is `/`. -/
def path (url : String) : String := String.ofList (pathChars url.toList)

def isAbsolute (url : String) : Bool := (Text.splitOnce? schemeMark url.toList).isSome

def originChars (url : List Char) : List Char :=
  match Text.splitOnce? schemeMark url with
  | some (scheme, rest) => scheme ++ schemeMark ++ rest.takeWhile (· != '/')
  | none => []

/-- The scheme and authority of a URL, empty for a text without a scheme. -/
def origin (url : String) : String := String.ofList (originChars url.toList)

/-- The URL of a route below a base, with one slash between the two. -/
def joinChars (base route : List Char) : List Char :=
  let stem := (base.reverse.dropWhile (· == '/')).reverse
  if route.head? = some '/' then stem ++ route else stem ++ '/' :: route

def join (base route : String) : String := String.ofList (joinChars base.toList route.toList)

end DesktopTrial.Url
