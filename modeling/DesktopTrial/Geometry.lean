import DesktopTrial.Document
import DesktopTrial.Source.Basic

/-!
# Geometry of a page

Points, boxes and sizes in pixels of the viewport, whose origin is its top left
corner.
-/

namespace DesktopTrial

namespace Source

variable {ν : Type} [Source ν]

def word32? (tree : ν) : Option UInt32 :=
  (naturalUpTo? (UInt32.size - 1) tree).map UInt32.ofNat

def word64? (tree : ν) : Option UInt64 :=
  (naturalUpTo? (UInt64.size - 1) tree).map UInt64.ofNat

end Source

def showFloat (x : Float) : String := Decimal.plain.text x

def showNat (n : Nat) : String := Decimal.ofNat n

structure Point where
  x : Float
  y : Float

namespace Point

def text (p : Point) : String := "(" ++ showFloat p.x ++ ", " ++ showFloat p.y ++ ")"

def document (p : Point) : Document := .mapping [("x", .float p.x), ("y", .float p.y)]

def read? {ν : Type} [Source ν] (tree : ν) : Option Point :=
  match Source.record? 2 tree with
  | none => none
  | some fields =>
      match fields.required? 0 "x" Source.float?, fields.required? 1 "y" Source.float? with
      | some x, some y => some ⟨x, y⟩
      | _, _ => none

end Point

/-- A rectangle of the viewport: its top left corner and its size. -/
structure Box where
  x : Float
  y : Float
  width : Float
  height : Float

namespace Box

def center (b : Box) : Point := ⟨b.x + b.width / 2, b.y + b.height / 2⟩

/-- Is the point inside?  The left and top edges belong to the box, the right and
bottom edges do not. -/
def contains (b : Box) (p : Point) : Bool :=
  b.x ≤ p.x && p.x < b.x + b.width && b.y ≤ p.y && p.y < b.y + b.height

def hasArea (b : Box) : Bool := 0 < b.width && 0 < b.height

def text (b : Box) : String :=
  "\x7bx: " ++ showFloat b.x ++ ", y: " ++ showFloat b.y ++ ", width: " ++ showFloat b.width ++
    ", height: " ++ showFloat b.height ++ "\x7d"

def document (b : Box) : Document :=
  .mapping [("x", .float b.x), ("y", .float b.y), ("width", .float b.width),
    ("height", .float b.height)]

def read? {ν : Type} [Source ν] (tree : ν) : Option Box :=
  match Source.record? 4 tree with
  | none => none
  | some fields =>
      match fields.required? 0 "x" Source.float?, fields.required? 1 "y" Source.float?,
          fields.required? 2 "width" Source.float?,
          fields.required? 3 "height" Source.float? with
      | some x, some y, some width, some height => some ⟨x, y, width, height⟩
      | _, _, _, _ => none

end Box

structure Size where
  width : UInt32
  height : UInt32
deriving DecidableEq, Repr

namespace Size

def document (s : Size) : Document :=
  .mapping [("width", .natural s.width.toNat), ("height", .natural s.height.toNat)]

def read? {ν : Type} [Source ν] (tree : ν) : Option Size :=
  match Source.record? 2 tree with
  | none => none
  | some fields =>
      match fields.required? 0 "width" Source.word32?,
          fields.required? 1 "height" Source.word32? with
      | some width, some height => some ⟨width, height⟩
      | _, _ => none

end Size

def floatOfWord (n : UInt32) : Float := Float.ofNat n.toNat

end DesktopTrial
