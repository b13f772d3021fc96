import DesktopTrial.Geometry
import DesktopTrial.Text.Quoted

/-!
# Locators

A locator names elements of a page: a selector, and which of several matches is
meant.  A locator without an occurrence is strict, so that it resolves only when
exactly one element matches.
-/

namespace DesktopTrial

inductive Occurrence where
  | first
  /-- The match at a place, counted from zero. -/
  | nth (place : UInt64)
  | last
deriving DecidableEq, Repr

namespace Occurrence

/-- The match that is meant. -/
def pick? {α : Type} (occurrence : Occurrence) (found : List α) : Option α :=
  match occurrence with
  | .first => found.head?
  | .nth place => found[place.toNat]?
  | .last => found.getLast?

def text : Occurrence → String
  | .first => "first"
  | .nth place => "nth(" ++ showNat place.toNat ++ ")"
  | .last => "last"

end Occurrence

inductive Selector where
  /-- Elements that match a CSS selector. -/
  | css (pattern : String)
  /-- Elements with a role and an accessible name. -/
  | role (kind name : String) (exact : Bool)
  /-- Elements by their text. -/
  | text (wanted : String) (exact : Bool)
  /-- Elements that match a CSS selector and contain a text. -/
  | cssWithText (pattern wanted : String)
  /-- Elements by their text, inside the elements that a scope picks. -/
  | textWithin (scope : Selector) (occurrence : Option Occurrence) (wanted : String)
      (exact : Bool)
deriving DecidableEq, Repr

structure Locator where
  selector : Selector
  occurrence : Option Occurrence
deriving DecidableEq, Repr

/-- A text followed by the occurrence that is meant. -/
def withOccurrence (text : String) : Option Occurrence → String
  | none => text
  | some occurrence => text ++ " >> " ++ occurrence.text

namespace Selector

def describe : Selector → String
  | .css pattern => "css=" ++ pattern
  | .role kind name _ => "role=" ++ kind ++ "[name=" ++ Text.quoted name ++ "]"
  | .text wanted _ => "text=" ++ Text.quoted wanted
  | .cssWithText pattern wanted => "css=" ++ pattern ++ ":has-text(" ++ Text.quoted wanted ++ ")"
  | .textWithin scope occurrence wanted _ =>
      withOccurrence scope.describe occurrence ++ " >> text=" ++ Text.quoted wanted

end Selector

namespace Locator

/-- The strict locator of a selector. -/
def ofSelector (selector : Selector) : Locator := ⟨selector, none⟩

def css (pattern : String) : Locator := ofSelector (.css pattern)

/-- By role and accessible name, the name as part of the element's name. -/
def byRole (kind name : String) : Locator := ofSelector (.role kind name false)

/-- By text, as part of the element's text. -/
def byText (wanted : String) : Locator := ofSelector (.text wanted false)

/-- Narrows a CSS selector to elements that contain a text; other selectors stay. -/
def withText (wanted : String) (locator : Locator) : Locator :=
  match locator.selector with
  | .css pattern => { locator with selector := .cssWithText pattern wanted }
  | _ => locator

/-- Narrows a text selector to the inside of `scope`; other selectors stay. -/
def within (locator scope : Locator) : Locator :=
  match locator.selector with
  | .text wanted exact =>
      { locator with selector := .textWithin scope.selector scope.occurrence wanted exact }
  | _ => locator

/-- Asks for the whole name or text where the selector compares one. -/
def exact (locator : Locator) : Locator :=
  match locator.selector with
  | .role kind name _ => { locator with selector := .role kind name true }
  | .text wanted _ => { locator with selector := .text wanted true }
  | .textWithin scope occurrence wanted _ =>
      { locator with selector := .textWithin scope occurrence wanted true }
  | _ => locator

def atOccurrence (occurrence : Occurrence) (locator : Locator) : Locator :=
  { locator with occurrence := some occurrence }

def first (locator : Locator) : Locator := locator.atOccurrence .first

def describe (locator : Locator) : String :=
  withOccurrence locator.selector.describe locator.occurrence

/-- The element that the locator refers to among all matches, or the reason why
it refers to none. -/
def resolve {α : Type} (locator : Locator) (found : List α) : Except String α :=
  match locator.occurrence with
  | some occurrence =>
      match occurrence.pick? found with
      | some element => .ok element
      | none => .error (locator.describe ++ ": no element at " ++ occurrence.text ++ " (" ++
          showNat found.length ++ " match(es))")
  | none =>
      match found with
      | [] => .error (locator.describe ++ ": no matching element")
      | [only] => .ok only
      | many => .error (locator.describe ++ ": strict mode violation, " ++
          showNat many.length ++ " elements matched; pick an occurrence")

end Locator

end DesktopTrial
