import DesktopTrial.Locator.Basic

/-!
# Sightings

What a page reports about one element that matches a selector.
-/

namespace DesktopTrial

/-- What is seen of an element. -/
structure Sighting where
  /-- The element is shown and takes up space. -/
  visible : Bool
  /-- The box of the element, when it has one. -/
  box : Option Box
  text : String

namespace Sighting

/-- An element that is shown in a box; one without area is not visible. -/
def inBox (box : Box) : Sighting := ⟨box.hasArea, some box, ""⟩

/-- An element of the document that is not shown. -/
def hidden : Sighting := ⟨false, none, ""⟩

def withText (text : String) (s : Sighting) : Sighting := { s with text }

/-- The box of an element that is visible and has one. -/
def visibleBox? (s : Sighting) : Option Box := if s.visible then s.box else none

def document (s : Sighting) : Document :=
  .mapping [("visible", .bool s.visible), ("bounding_box", .ofOption Box.document s.box),
    ("text", .text s.text)]

def read? {ν : Type} [Source ν] (tree : ν) : Option Sighting :=
  match Source.record? 3 tree with
  | none => none
  | some fields =>
      match fields.required? 0 "visible" Source.bool?,
          fields.field? 1 "bounding_box" (Source.optionOf? Box.read?) (some none) none,
          fields.defaulted? 2 "text" Source.text? "" with
      | some visible, some box, some text => some ⟨visible, box, text⟩
      | _, _, _ => none

end Sighting

end DesktopTrial
