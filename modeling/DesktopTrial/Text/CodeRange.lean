/-!
# Ranges of code points

Character classes are kept as ascending lists of inclusive ranges of code
points.
-/

namespace DesktopTrial.Text

abbrev CodeRange := Nat × Nat

def inRanges (ranges : List CodeRange) (c : Char) : Bool :=
  ranges.any fun range => range.1 ≤ c.toNat && c.toNat ≤ range.2

end DesktopTrial.Text
