import DesktopTrial.Locator.Basic
import DesktopTrial.Json.Printer

/-!
# Match expressions

The JavaScript expression that lists the elements matched by a selector, in
document order, and the script that reports what is seen of each.  Every text a
user wrote stands in the expression as a string literal of its own.
-/

namespace DesktopTrial

def scriptLiteral (text : String) : String := Json.stringText text

/-- The characters between the quotes of a CSS attribute value. -/
def attributeChars : List Char → List Char
  | [] => []
  | c :: rest =>
      if c = '\\' then '\\' :: '\\' :: attributeChars rest
      else if c = '"' then '\\' :: '"' :: attributeChars rest
      else c :: attributeChars rest

def attributeValue (text : String) : String :=
  String.ofList ('"' :: attributeChars text.toList ++ ['"'])

/-- The function from an element to its normalised text. -/
def textFunction : String :=
  "((el) => (el.innerText || el.textContent || '').replace(/\\s+/g, ' ').trim())"

/-- The function from an element to its accessible name. -/
def nameFunction : String :=
  "((el) => (el.getAttribute('aria-label') || el.getAttribute('title') || el.innerText || el.textContent || el.value || '').replace(/\\s+/g, ' ').trim())"

/-- The comparison of a text with the wanted one. -/
def matchFunction : String :=
  "((have, want, exact) => exact ? have === want : have.toLowerCase().includes(want.toLowerCase()))"

/-- The function from an element to what is seen of it. -/
def sightingFunction : String :=
  "(el => \x7b const rects = el.getClientRects(); const r = el.getBoundingClientRect(); const s = window.getComputedStyle(el); const boxed = rects.length > 0; return \x7b visible: boxed && r.width > 0 && r.height > 0 && s.visibility !== 'hidden' && s.display !== 'none', bounding_box: boxed ? \x7b x: r.x, y: r.y, width: r.width, height: r.height \x7d : null, text: (el.innerText || el.textContent || '').replace(/\\s+/g, ' ').trim() \x7d; \x7d)"

/-- The elements that have a role without saying so. -/
def implicitRole? (role : String) : Option String :=
  match role with
  | "button" => some "button, input[type=button], input[type=submit], input[type=reset]"
  | "link" => some "a[href]"
  | "heading" => some "h1, h2, h3, h4, h5, h6"
  | "textbox" => some "input:not([type]), input[type=text], input[type=email], textarea"
  | "checkbox" => some "input[type=checkbox]"
  | "menu" => some "menu"
  | "dialog" => some "dialog"
  | _ => none

/-- The CSS selector of the elements that may have a role. -/
def roleCandidates (role : String) : String :=
  "[role=" ++ attributeValue role ++ "]" ++
    match implicitRole? role with
    | some implicit => ", " ++ implicit
    | none => ""

def flagText (flag : Bool) : String := if flag then "true" else "false"

def queryAll (css : String) : String :=
  "Array.from(document.querySelectorAll(" ++ scriptLiteral css ++ "))"

def comparison (function wanted : String) (exact : Bool) : String :=
  matchFunction ++ "(" ++ function ++ "(el), " ++ scriptLiteral wanted ++ ", " ++
    flagText exact ++ ")"

/-- The elements with a role whose name meets the wanted one. -/
def roleExpression (kind name : String) (exact : Bool) : String :=
  queryAll (roleCandidates kind) ++ ".filter(el => " ++ comparison nameFunction name exact ++ ")"

/-- The innermost elements whose text meets the wanted one. -/
def textExpression (wanted : String) (exact : Bool) : String :=
  "(() => \x7b const hit = el => " ++ comparison textFunction wanted exact ++
    "; return Array.from(document.body ? document.body.querySelectorAll('*') : []) .filter(el => hit(el) && !Array.from(el.children).some(hit)); \x7d)()"

/-- The elements that match a CSS selector and have the wanted text in theirs. -/
def cssTextExpression (pattern wanted : String) : String :=
  queryAll pattern ++ ".filter(el => " ++ comparison textFunction wanted false ++ ")"

/-- The innermost elements inside `roots` whose text meets the wanted one, where `roots` is a part
of the list `all`. -/
def withinExpression (all roots wanted : String) (exact : Bool) : String :=
  "(() => \x7b const all = " ++ all ++ "; const hit = el => " ++
    comparison textFunction wanted exact ++ "; const seen = new Set(); return " ++ roots ++
    ".flatMap(root => Array.from(root.querySelectorAll('*'))) .filter(el => !seen.has(el) && seen.add(el) && hit(el) && !Array.from(el.children).some(hit)); \x7d)()"

/-- The place that comes next, if it is a word of 64 bits as well. -/
def nextPlace? (place : UInt64) : Option UInt64 :=
  if place.toNat + 1 < UInt64.size then some (place + 1) else none

/-- The part of the list `all` that an occurrence picks.  The part for a place ends at the next
one, so that there is none for the greatest place. -/
def scopeSlice? : Option Occurrence → Option String
  | none => some "all"
  | some .first => some "all.slice(0, 1)"
  | some (.nth place) => do
      let next ← nextPlace? place
      return "all.slice(" ++ showNat place.toNat ++ ", " ++ showNat next.toNat ++ ")"
  | some .last => some "all.slice(-1)"

/-- The expression that lists the elements matched by a selector.  A selector has none when the
end of a slice in it overflows. -/
def Selector.expression? : Selector → Option String
  | .css pattern => some (queryAll pattern)
  | .role kind name exact => some (roleExpression kind name exact)
  | .text wanted exact => some (textExpression wanted exact)
  | .cssWithText pattern wanted => some (cssTextExpression pattern wanted)
  | .textWithin scope occurrence wanted exact => do
      let roots ← scopeSlice? occurrence
      let all ← scope.expression?
      return withinExpression all roots wanted exact

/-- The script that reports what is seen of every match. -/
def Locator.probeScript? (locator : Locator) : Option String := do
  let matched ← locator.selector.expression?
  return "(" ++ matched ++ ").map(" ++ sightingFunction ++ ")"

end DesktopTrial
