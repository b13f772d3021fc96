import DesktopTrial.Model.Selection
import DesktopTrial.Proofs.Locator.Expression
import DesktopTrial.Proofs.Locator.Json

/-!
# The slices of scopes

A scope that is picked at a place is written as the slice of its matches from that place to its
successor.  Places are words of 64 bits.  The greatest place can be read like any other, but its
successor is no word, and the expression is lost when it is computed.
-/

namespace DesktopTrial

/-- The slice from a place up to its successor holds the match at that place. -/
theorem extract_succ_eq_picked (place : UInt64) (found : List Model.Element) :
    found.extract place.toNat (place.toNat + 1) = Model.picked (some (.nth place)) found := by
  rw [List.extract_eq_take_drop, Nat.add_sub_cancel_left, Model.picked, Occurrence.pick?,
    List.take_one, List.head?_drop]

namespace Selector

/-- Every place can be read, and the slice from a place up to its successor holds the container
that the place picks.  The expression of a selector is the one with these slices, for all scopes
at every level of nesting, unless one of them is picked at the greatest place: then the successor
overflows and there is no expression. -/
theorem scopes_sliced (s : Selector) :
    (∀ place : UInt64, Json.decode? Occurrence.read? (Occurrence.nth place).document.json =
      some (.nth place)) ∧
    (∀ (place : UInt64) (found : List Model.Element),
      spelledSlice (some (.nth place)) =
        "all.slice(" ++ showNat place.toNat ++ ", " ++ showNat (place.toNat + 1) ++ ")" ∧
      found.extract place.toNat (place.toNat + 1) = Model.picked (some (.nth place)) found) ∧
    s.expression? = if greatestPlace ∈ s.scopePlaces then none else some s.spelled :=
  ⟨fun place => Occurrence.decode?_json (.nth place),
    fun place found => ⟨rfl, extract_succ_eq_picked place found⟩, s.expression?_eq⟩

/-- A label inside the window at the greatest place. -/
def labelInGreatest : Locator where
  selector := .textWithin (.css ".window") (some (.nth greatestPlace)) "Label" false
  occurrence := none

/-- The locator is read from JSON, but the end of its slice overflows, so that it has neither an
expression nor a script. -/
theorem labelInGreatest_overflows :
    Json.decode? Locator.read? "\x7b\"selector\":\x7b\"by\":\"text_within\",\"scope\":\x7b\"selector\":\x7b\"by\":\"css\",\"css\":\".window\"\x7d,\"occurrence\":\x7b\"nth\":18446744073709551615\x7d\x7d,\"text\":\"Label\",\"exact\":false\x7d\x7d" =
        some labelInGreatest ∧
      spelledSlice (some (.nth greatestPlace)) =
        "all.slice(18446744073709551615, 18446744073709551616)" ∧
      labelInGreatest.selector.expression? = none ∧ labelInGreatest.probeScript? = none := by
  refine ⟨by decide +kernel, by decide +kernel, ?_, ?_⟩
  · rw [expression?_eq]
    decide
  · rfl

end Selector

end DesktopTrial
