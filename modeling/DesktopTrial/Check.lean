import DesktopTrial.Geometry

/-!
# Checks

What a check finds, how many elements it may expect, and where it expects a
window that is centered in the viewport.
-/

namespace DesktopTrial

/-- What a check found: whether it held, and what was seen. -/
structure Outcome where
  passed : Bool
  detail : String
deriving DecidableEq, Repr

namespace Outcome

def pass (detail : String) : Outcome := ⟨true, detail⟩

def fail (detail : String) : Outcome := ⟨false, detail⟩

end Outcome

/-- An expected number of elements. -/
inductive Count where
  | atLeast (n : UInt64)
  | exactly (n : UInt64)
  | none
deriving DecidableEq, Repr

namespace Count

def accepts (count : Count) (actual : Nat) : Bool :=
  match count with
  | .atLeast n => n.toNat ≤ actual
  | .exactly n => actual == n.toNat
  | .none => actual == 0

def text : Count → String
  | .atLeast n => "at least " ++ showNat n.toNat
  | .exactly n => "exactly " ++ showNat n.toNat
  | .none => "none"

def document : Count → Document
  | .atLeast n => .variant "at_least" (.natural n.toNat)
  | .exactly n => .variant "exactly" (.natural n.toNat)
  | .none => .text "none"

def read? {ν : Type} [Source ν] (tree : ν) : Option Count :=
  match Source.variant? tree with
  | Option.none => Option.none
  | some (key, content) =>
      match key.place? ["at_least", "exactly", "none"], content with
      | some 0, some content => (Source.word64? content).map .atLeast
      | some 1, some content => (Source.word64? content).map .exactly
      | some 2, some content => if Source.holdsNothing content then some .none else Option.none
      | some 2, Option.none => some .none
      | _, _ => Option.none

end Count

/-- Where a window of known size sits when it is centered in the viewport, and by
how much it may be off. -/
structure Centering where
  viewport : Size
  window : Size
  tolerance : UInt32
deriving DecidableEq, Repr

namespace Centering

/-- The top left corner of the centered window. -/
def origin (c : Centering) : Point :=
  ⟨(floatOfWord c.viewport.width - floatOfWord c.window.width) / 2,
    (floatOfWord c.viewport.height - floatOfWord c.window.height) / 2⟩

/-- No deviation at all, or one below the tolerance. -/
def tolerates (c : Centering) (deviation : Float) : Bool :=
  deviation == 0 || deviation < floatOfWord c.tolerance

/-- Compares a window's box with the centered position, on both axes. -/
def check (c : Centering) (actual : Box) : Outcome :=
  let dx := (actual.x - c.origin.x).abs
  let dy := (actual.y - c.origin.y).abs
  ⟨c.tolerates dx && c.tolerates dy,
    "window at " ++ Point.text ⟨actual.x, actual.y⟩ ++ ", expected " ++ c.origin.text ++ " ±" ++
      showNat c.tolerance.toNat ++ "px, off by " ++ Point.text ⟨dx, dy⟩⟩

def document (c : Centering) : Document :=
  .mapping [("viewport_width", .natural c.viewport.width.toNat),
    ("viewport_height", .natural c.viewport.height.toNat),
    ("window_width", .natural c.window.width.toNat),
    ("window_height", .natural c.window.height.toNat),
    ("tolerance_px", .natural c.tolerance.toNat)]

def read? {ν : Type} [Source ν] (tree : ν) : Option Centering :=
  match Source.record? 5 tree with
  | none => none
  | some fields =>
      match fields.required? 0 "viewport_width" Source.word32?,
          fields.required? 1 "viewport_height" Source.word32?,
          fields.required? 2 "window_width" Source.word32?,
          fields.required? 3 "window_height" Source.word32?,
          fields.required? 4 "tolerance_px" Source.word32? with
      | some vw, some vh, some ww, some wh, some tolerance =>
          some ⟨⟨vw, vh⟩, ⟨ww, wh⟩, tolerance⟩
      | _, _, _, _, _ => none

end Centering

end DesktopTrial
