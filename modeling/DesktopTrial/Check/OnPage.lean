import DesktopTrial.Check
import DesktopTrial.Readiness.Target

/-!
# Checks on a page

Each check asks the page once and answers with an outcome.  An element that is
missing or not as expected is an outcome; only the page's failures are failures.
-/

namespace DesktopTrial.Check

variable {σ : Type}

/-- Is the located element there, with area and not hidden? -/
def visibility (locator : Locator) (found : List Sighting) : Outcome :=
  match locator.resolve found with
  | .ok element =>
      if element.visible then .pass (locator.describe ++ " is visible")
      else .fail (locator.describe ++ " is present but not visible")
  | .error reason => .fail reason

def isVisible (page : Page σ) (locator : Locator) : Run (Moment σ) Outcome := do
  return visibility locator (← Run.ask page (.query locator))

/-- The locator of a text at an occurrence, inside a scope if one is given. -/
def textLocator (scope : Option Locator) (wanted : String) (occurrence : Occurrence) : Locator :=
  let locator := (Locator.byText wanted).atOccurrence occurrence
  match scope with
  | some scope => locator.within scope
  | none => locator

def containsText (page : Page σ) (scope : Option Locator) (wanted : String)
    (occurrence : Occurrence) : Run (Moment σ) Outcome :=
  isVisible page (textLocator scope wanted occurrence)

def counted (locator : Locator) (count : Count) (actual : Nat) : Outcome :=
  ⟨count.accepts actual, locator.describe ++ ": " ++ showNat actual ++
    " match(es), expected " ++ count.text⟩

def hasCount (page : Page σ) (locator : Locator) (count : Count) : Run (Moment σ) Outcome := do
  return counted locator count (← Run.ask page (.query locator)).length

/-- Is the located window where it is expected when it is centered? -/
def centeredness (locator : Locator) (expected : Centering) (found : List Sighting) : Outcome :=
  match locator.resolve found with
  | .ok element =>
      match element.visibleBox? with
      | some box => expected.check box
      | none => .fail (locator.describe ++ " has no rendered box")
  | .error reason => .fail reason

def isCentered (page : Page σ) (locator : Locator) (expected : Centering) :
    Run (Moment σ) Outcome := do
  return centeredness locator expected (← Run.ask page (.query locator))

def isElsewhere (page : Page σ) (path : String) : Run (Moment σ) Outcome := do
  let current ← currentPath page
  return ⟨current != path, "current path " ++ current ++ ", must not be " ++ path⟩

end DesktopTrial.Check
