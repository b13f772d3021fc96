import DesktopTrial.Locator.Data
import DesktopTrial.Locator.Sighting

/-!
# Conditions of readiness

What has to hold on a page before it is checked.  A condition is probed with one
locator and decided by what is seen of the matches.
-/

namespace DesktopTrial

inductive Condition where
  /-- Some element with the role and name is visible. -/
  | roleVisible (kind name : String)
  /-- The element that contains the text at an occurrence is visible. -/
  | textVisible (wanted : String) (occurrence : Occurrence)
  /-- Some element matches the CSS selector. -/
  | selectorPresent (pattern : String)
deriving DecidableEq, Repr

namespace Condition

/-- The locator that is probed. -/
def locator : Condition → Locator
  | .roleVisible kind name => .byRole kind name
  | .textVisible wanted occurrence => (Locator.byText wanted).atOccurrence occurrence
  | .selectorPresent pattern => .css pattern

/-- Does the condition hold, given all matches of its locator? -/
def holds (condition : Condition) (found : List Sighting) : Bool :=
  match condition with
  | .roleVisible _ _ => found.any (·.visible)
  | .textVisible _ occurrence => (occurrence.pick? found).any (·.visible)
  | .selectorPresent _ => !found.isEmpty

def describe : Condition → String
  | .roleVisible kind name => kind ++ " " ++ Text.quoted name ++ " visible"
  | .textVisible wanted occurrence =>
      "text " ++ Text.quoted wanted ++ " (" ++ occurrence.text ++ ") visible"
  | .selectorPresent pattern => "selector " ++ Text.quoted pattern ++ " present"

def document : Condition → Document
  | .roleVisible kind name =>
      .mapping [("when", .text "role_visible"), ("role", .text kind), ("name", .text name)]
  | .textVisible wanted occurrence =>
      .mapping [("when", .text "text_visible"), ("text", .text wanted),
        ("occurrence", occurrence.document)]
  | .selectorPresent pattern =>
      .mapping [("when", .text "selector_present"), ("css", .text pattern)]

/-- Reads a condition, whose kind is named in the member `when`. -/
def read? {ν : Type} [Source ν] (tree : ν) : Option Condition :=
  match Source.tagged? "when" tree with
  | none => none
  | some (kind, rest) =>
      match kind.place? ["role_visible", "text_visible", "selector_present"] with
      | some 0 =>
          match Source.record? 2 rest with
          | none => none
          | some fields =>
              match fields.required? 0 "role" Source.text?,
                  fields.required? 1 "name" Source.text? with
              | some kind, some name => some (.roleVisible kind name)
              | _, _ => none
      | some 1 =>
          match Source.record? 2 rest with
          | none => none
          | some fields =>
              match fields.required? 0 "text" Source.text?,
                  fields.required? 1 "occurrence" Occurrence.read? with
              | some wanted, some occurrence => some (.textVisible wanted occurrence)
              | _, _ => none
      | some 2 =>
          match Source.record? 1 rest with
          | none => none
          | some fields => (fields.required? 0 "css" Source.text?).map .selectorPresent
      | _ => none

end Condition

end DesktopTrial
