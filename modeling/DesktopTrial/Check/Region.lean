import DesktopTrial.Locator.Data
import DesktopTrial.Check
import DesktopTrial.Page

/-!
# Region probes

The desktop opens its context menu on the empty background only.  A probe
right-clicks a region and compares whether the menu appears with what is expected.
The menu is dismissed after every probe, whatever came of it.
-/

namespace DesktopTrial

inductive ProbeTarget where
  | point (point : Point)
  /-- The center of a located element. -/
  | locator (locator : Locator)

namespace ProbeTarget

def document : ProbeTarget → Document
  | .point p => .variant "point" p.document
  | .locator l => .variant "locator" l.document

def read? {ν : Type} [Source ν] (tree : ν) : Option ProbeTarget :=
  match Source.variant? tree with
  | some (key, some content) =>
      match key.place? ["point", "locator"] with
      | some 0 => (Point.read? content).map .point
      | some 1 => (Locator.read? content).map .locator
      | _ => none
  | _ => none

end ProbeTarget

/-- A region to be probed and whether the menu has to appear there. -/
structure RegionProbe where
  name : String
  target : ProbeTarget
  opensMenu : Bool

namespace RegionProbe

def document (probe : RegionProbe) : Document :=
  .mapping [("name", .text probe.name), ("target", probe.target.document),
    ("expected_menu_visible", .bool probe.opensMenu)]

def read? {ν : Type} [Source ν] (tree : ν) : Option RegionProbe :=
  match Source.record? 3 tree with
  | none => none
  | some fields =>
      match fields.required? 0 "name" Source.text?,
          fields.required? 1 "target" ProbeTarget.read?,
          fields.required? 2 "expected_menu_visible" Source.bool? with
      | some name, some target, some opensMenu => some ⟨name, target, opensMenu⟩
      | _, _, _ => none

end RegionProbe

structure MenuHandling where
  menu : Locator
  /-- Where a click dismisses the menu. -/
  dismissAt : Point
  /-- The pause after a click, in milliseconds. -/
  settle : Nat

namespace RegionProbe

variable {σ : Type}

def menuVisible (page : Page σ) (menu : Locator) : Run (Moment σ) Bool := do
  return (← Run.ask page (.query menu)).any (·.visible)

/-- The center of the located element, or the reason why there is none. -/
def centerOf (locator : Locator) (found : List Sighting) : Except String Point :=
  match locator.resolve found with
  | .error reason => .error reason
  | .ok element =>
      match element.visibleBox? with
      | some box => .ok box.center
      | none => .error (locator.describe ++ " is not rendered")

/-- The point that a target stands for, or the reason why there is none. -/
def pointOf (page : Page σ) (target : ProbeTarget) : Run (Moment σ) (Except String Point) :=
  match target with
  | .point p => return .ok p
  | .locator locator => do return centerOf locator (← Run.ask page (.query locator))

def shownText (shown : Bool) : String := if shown then "shown" else "hidden"

/-- Right-clicks a point and compares whether the menu appears. -/
def clickAndLook (page : Page σ) (probe : RegionProbe) (handling : MenuHandling) (p : Point) :
    Run (Moment σ) Outcome := do
  Run.ask page (.click p .secondary)
  Run.sleep handling.settle
  let shown ← menuVisible page handling.menu
  return ⟨shown == probe.opensMenu, probe.name ++ ": right-click at " ++ p.text ++ ", menu " ++
    shownText shown ++ " (expected " ++ shownText probe.opensMenu ++
    "); no menu open before click"⟩

/-- The probe without its dismissal.  A menu that is open before the click would
say nothing about the region. -/
def examine (page : Page σ) (probe : RegionProbe) (handling : MenuHandling) :
    Run (Moment σ) Outcome := do
  if ← menuVisible page handling.menu then
    return .fail (probe.name ++ ": menu already open before click")
  else
    match ← pointOf page probe.target with
    | .error reason => return .fail (probe.name ++ ": target not found (" ++ reason ++ ")")
    | .ok p => clickAndLook page probe handling p

/-- Clicks where the menu is dismissed and lets the page settle. -/
def dismiss (page : Page σ) (handling : MenuHandling) : Run (Moment σ) Unit := do
  Run.ask page (.click handling.dismissAt .primary)
  Run.sleep handling.settle

/-- Probes a region and dismisses the menu.  The dismissal is tried on every path,
and a menu that survives it fails the probe. -/
def check (page : Page σ) (probe : RegionProbe) (handling : MenuHandling) :
    Run (Moment σ) Outcome := do
  let examined ← Run.attempt (examine page probe handling)
  let dismissed ← Run.attempt (dismiss page handling)
  let outcome ← MonadExcept.ofExcept examined
  let () ← MonadExcept.ofExcept dismissed
  if ← menuVisible page handling.menu then
    return .fail (outcome.detail ++ "; menu still open after dismiss click at " ++
      handling.dismissAt.text)
  else return outcome

end RegionProbe

end DesktopTrial
