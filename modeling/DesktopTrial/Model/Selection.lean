import DesktopTrial.Model.App

/-!
# Selection in a model document

Which elements a selector picks.  A text inside a scope is looked for below the
elements that the scope picks, however deep: an element is inside another when
its chain of parents meets it.
-/

namespace DesktopTrial.Model

def parentOf? (present : List Element) (id : String) : Option String :=
  (present.find? fun e => e.id == id).bind (·.parent)

/-- Does the chain of parents that begins with `next` meet one of the roots?  There
is no answer when the chain never ends, which it does not when it is longer than
the list of elements. -/
def meets (present : List Element) (roots : List String) :
    (fuel : Nat) → (next : Option String) → Option Bool
  | _, none => some false
  | 0, some _ => none
  | fuel + 1, some id =>
      if roots.contains id then some true else meets present roots fuel (parentOf? present id)

/-- Is the element inside one of the roots? -/
def isInside (present : List Element) (roots : List String) (e : Element) : Option Bool :=
  meets present roots (present.length + 1) e.parent

/-- The containers that a scope picks: one at the occurrence, or all. -/
def picked (occurrence : Option Occurrence) (containers : List Element) : List Element :=
  match occurrence with
  | none => containers
  | some occurrence => (occurrence.pick? containers).toList

/-- The elements that a selector picks, in document order.  There is no answer when
some chain of parents that has to be followed never ends. -/
def select? (present : List Element) : Selector → Option (List Element)
  | .textWithin scope occurrence wanted exact =>
      match select? present scope with
      | none => none
      | some containers =>
          let roots := (picked occurrence containers).map (·.id)
          present.filterM fun e =>
            if textMatches e.text wanted exact then isInside present roots e else some false
  | selector => some (present.filter fun e => e.fits selector)

end DesktopTrial.Model
