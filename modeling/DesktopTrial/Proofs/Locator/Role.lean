import DesktopTrial.Proofs.Script.Literal
import DesktopTrial.Proofs.Style.Quoted
import DesktopTrial.Proofs.Text.Routes

/-!
# Roles in expressions

The expression of a role hands a CSS selector to the page as a string literal of a script.  The
selector begins with an attribute selector for the role, whose value is a string of CSS.  The
script reads back every selector, and the page every role in which no line ends.
-/

namespace DesktopTrial

def queryFront : List Char := "Array.from(document.querySelectorAll(".toList

def roleFront : List Char := "[role=".toList

/-- The CSS selector of the first query in an expression, as the script reads it. -/
def queriedSelector? (expression : String) : Option String :=
  (Text.splitOnce? queryFront expression.toList).bind fun parts =>
    (Script.readLiteral? parts.2).map Prod.fst

/-- What stands in a CSS selector from the value of its first attribute selector for roles on. -/
def roleValue? (selector : String) : Option (List Char) :=
  (Text.splitOnce? roleFront selector.toList).map Prod.snd

/-! ## The places of selector and value -/

theorem toList_queryAll (css : String) : ∃ rest,
    (queryAll css).toList = queryFront ++ ((scriptLiteral css).toList ++ rest) := by
  unfold queryAll queryFront
  rw [String.toList_append, String.toList_append, List.append_assoc]
  exact ⟨_, rfl⟩

theorem toList_roleCandidates (kind : String) : ∃ rest,
    (roleCandidates kind).toList = roleFront ++ ((attributeValue kind).toList ++ ']' :: rest) := by
  unfold roleCandidates roleFront
  simp only [String.toList_append, List.append_assoc]
  exact ⟨_, rfl⟩

namespace Selector

/-- The script reads the selector as it was put together, whatever the role is. -/
theorem queriedSelector?_role (kind name : String) (exact : Bool) :
    queriedSelector? (roleExpression kind name exact) = some (roleCandidates kind) := by
  obtain ⟨rest, hquery⟩ := toList_queryAll (roleCandidates kind)
  rw [queriedSelector?, roleExpression, String.toList_append, String.toList_append,
    String.toList_append, hquery, List.append_assoc, List.append_assoc, List.append_assoc,
    List.append_assoc, Text.splitOnce?_word (by decide), Option.bind_some,
    Script.readLiteral?_scriptLiteral, Option.map_some]

/-! ## Reading a role back -/

/-- The value of the attribute selector in the expression of a role is a string of CSS just when
no line ends in the role.  The string is then the role, and the bracket that closes the selector
stands behind it; a style sheet only replaces the character at zero, which CSS cannot hold. -/
theorem role_read_back (kind name : String) (exact : Bool) :
    ∃ expression selector value rest,
      (role kind name exact).expression? = some expression ∧
      queriedSelector? expression = some selector ∧
      roleValue? selector = some value ∧
      Style.readString? value =
        (if kind.toList.any Style.endsLine then none else some (kind, ']' :: rest)) ∧
      Style.readString? (Style.filtered value) =
        if kind.toList.any Style.endsLine then none
        else some (String.ofList (kind.toList.map Style.filteredChar),
          ']' :: Style.filtered rest) := by
  obtain ⟨rest, hcandidates⟩ := toList_roleCandidates kind
  have hvalue : roleValue? (roleCandidates kind) =
      some ((attributeValue kind).toList ++ ']' :: rest) := by
    rw [roleValue?, hcandidates, Text.splitOnce?_word (by decide), Option.map_some]
  have hbracket : Style.filtered (']' :: rest) = ']' :: Style.filtered rest :=
    Style.filtered_cons (by decide) rest
  refine ⟨roleExpression kind name exact, roleCandidates kind,
    (attributeValue kind).toList ++ ']' :: rest, rest, rfl, queriedSelector?_role kind name exact,
    hvalue, Style.readString?_attributeValue kind _, ?_⟩
  rw [Style.readString?_filtered, hbracket]

/-- A role in which a line ends is written as a value that is no string, though a value with an
escape for the end of the line would be read as the role. -/
theorem brokenRole_misread :
    (role "a\nb" "Save" false).expression?.bind queriedSelector? = some "[role=\"a\nb\"]" ∧
      roleValue? "[role=\"a\nb\"]" = some "\"a\nb\"]".toList ∧
      Style.readString? "\"a\nb\"]".toList = none ∧
      Style.readString? "\"a\\a b\"]".toList = some ("a\nb", [']']) := by
  have hcandidates : roleCandidates "a\nb" = "[role=\"a\nb\"]" := by decide +kernel
  refine ⟨?_, ?_, ?_, ?_⟩
  · rw [expression?, Option.bind_some, queriedSelector?_role, hcandidates]
  all_goals decide +kernel

end Selector

end DesktopTrial
