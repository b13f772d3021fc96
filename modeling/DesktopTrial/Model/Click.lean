import DesktopTrial.Model.App

/-!
# Clicks in a model document

A click meets the topmost shown element at its point.  A secondary click opens or
closes the context menu; a primary click closes it and shows what the element
reveals, and what that reveals in turn.
-/

namespace DesktopTrial.Model

/-- The topmost shown element at a point.  Later elements lie above earlier ones. -/
def topmost? (elements : List Element) (p : Point) : Option Element :=
  elements.reverse.find? fun e => e.shown && e.box.contains p

/-- Changes the context menu. -/
def updateMenu (menuId : String) (f : Element → Element) (elements : List Element) :
    List Element :=
  elements.map fun e => if e.id = menuId then f e else e

def closeMenu (menuId : String) (elements : List Element) : List Element :=
  updateMenu menuId (fun e => { e with shown := false }) elements

/-- Opens the context menu with its corner at a point. -/
def openMenu (menuId : String) (p : Point) (elements : List Element) : List Element :=
  updateMenu menuId (fun e => { e with shown := true, box := { e.box with x := p.x, y := p.y } })
    elements

def hiddenCount (elements : List Element) : Nat := elements.countP fun e => !e.shown

/-- Shows the first element with an id, if it is hidden, and says what it reveals. -/
def showFirst? (id : String) : List Element → Option (List String × List Element)
  | [] => none
  | e :: rest =>
      if e.id = id then
        if e.shown then none else some (e.reveals, { e with shown := true } :: rest)
      else (showFirst? id rest).map fun found => (found.1, e :: found.2)

theorem hiddenCount_showFirst? {id : String} {revealed : List String} :
    {elements after : List Element} → showFirst? id elements = some (revealed, after) →
      hiddenCount after + 1 = hiddenCount elements
  | [], _, hshow => by simp [showFirst?] at hshow
  | e :: rest, after, hshow => by
      unfold showFirst? at hshow
      split at hshow
      · split at hshow
        · simp at hshow
        · rename_i hhidden
          obtain ⟨-, rfl⟩ := Prod.mk.inj (Option.some.inj hshow)
          simp [hiddenCount, hhidden]
      · obtain ⟨found, hfound, heq⟩ := Option.map_eq_some_iff.mp hshow
        obtain ⟨rfl, rfl⟩ := Prod.mk.inj heq
        have hcount := hiddenCount_showFirst? hfound
        simp only [hiddenCount, List.countP_cons] at hcount ⊢
        omega

/-- Shows the elements with these ids, and what they reveal when they were hidden.
Each round shows a hidden element or takes an id off the list. -/
def reveal (pending : List String) (elements : List Element) : List Element :=
  match pending with
  | [] => elements
  | id :: rest =>
      match _hshow : showFirst? id elements with
      | none => reveal rest elements
      | some (revealed, after) => reveal (revealed.reverse ++ rest) after
termination_by (hiddenCount elements, pending.length)
decreasing_by
  · exact Prod.Lex.right _ (by simp)
  · exact Prod.Lex.left _ _ (by have := hiddenCount_showFirst? _hshow; omega)

/-- The elements after a secondary click at a point. -/
def secondaryClick (app : App) (p : Point) (elements : List Element) : List Element :=
  match topmost? elements p with
  | none => closeMenu app.menuId elements
  | some target =>
      if target.id = app.menuId then elements
      else if target.opensMenu then openMenu app.menuId p elements
      else closeMenu app.menuId elements

/-- The elements after a primary click at a point, and the text of the menu item
that was chosen, if one was. -/
def primaryClick (app : App) (p : Point) (elements : List Element) :
    List Element × Option String :=
  let beside := if app.stickyMenu then elements else closeMenu app.menuId elements
  match topmost? elements p with
  | none => (beside, none)
  | some target =>
      if target.id = app.menuId then (closeMenu app.menuId elements, some target.text)
      else (reveal target.reveals.reverse beside, none)

end DesktopTrial.Model
