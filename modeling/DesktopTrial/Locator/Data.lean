import DesktopTrial.Locator.Basic
import DesktopTrial.Source.Buffer

/-!
# Locators as data

The written form of locators and the readers that take them from a source.  A
selector names its kind in the member `by`, wherever it stands among the others.
-/

namespace DesktopTrial

namespace Occurrence

def document : Occurrence → Document
  | .first => .text "first"
  | .nth place => .variant "nth" (.natural place.toNat)
  | .last => .text "last"

def read? {ν : Type} [Source ν] (tree : ν) : Option Occurrence :=
  match Source.variant? tree with
  | none => none
  | some (key, content) =>
      let bare : Occurrence → Option Occurrence := fun occurrence =>
        match content with
        | none => some occurrence
        | some content => if Source.holdsNothing content then some occurrence else none
      match key.place? ["first", "nth", "last"] with
      | some 0 => bare .first
      | some 1 => content.bind fun content => (Source.word64? content).map .nth
      | some 2 => bare .last
      | _ => none

end Occurrence

/-- A written selector with the occurrence beside it, which is left out when none
is meant. -/
def locatorDocument (selector : Document) : Option Occurrence → Document
  | none => .mapping [("selector", selector)]
  | some occurrence => .mapping [("selector", selector), ("occurrence", occurrence.document)]

def Selector.document : Selector → Document
  | .css pattern => .mapping [("by", .text "css"), ("css", .text pattern)]
  | .role kind name exact =>
      .mapping [("by", .text "role"), ("role", .text kind), ("name", .text name),
        ("exact", .bool exact)]
  | .text wanted exact =>
      .mapping [("by", .text "text"), ("text", .text wanted), ("exact", .bool exact)]
  | .cssWithText pattern wanted =>
      .mapping [("by", .text "css_with_text"), ("css", .text pattern), ("text", .text wanted)]
  | .textWithin scope occurrence wanted exact =>
      .mapping [("by", .text "text_within"),
        ("scope", locatorDocument scope.document occurrence), ("text", .text wanted),
        ("exact", .bool exact)]

def Locator.document (locator : Locator) : Document :=
  locatorDocument locator.selector.document locator.occurrence

def selectorKinds : List String := ["css", "role", "text", "css_with_text", "text_within"]

/-- Reads a locator whose selector is read by `selector?`. -/
def readLocator? {ν : Type} [Source ν] (selector? : ν → Option Selector) (tree : ν) :
    Option Locator :=
  match Source.record? 2 tree with
  | none => none
  | some fields =>
      match fields.required? 0 "selector" selector?,
          fields.defaulted? 1 "occurrence" (Source.optionOf? Occurrence.read?) none with
      | some selector, some occurrence => some ⟨selector, occurrence⟩
      | _, _ => none

/-- The selector of a kind, from the members that stand beside the kind.  `fuel`
bounds the nesting of scopes; the depth of the buffer is enough. -/
def selectorOfKind? : Nat → Key → Buffer → Option Selector
  | 0, _, _ => none
  | fuel + 1, kind, rest =>
      let scope? (tree : Buffer) : Option Locator :=
        readLocator? (fun inner =>
          match Source.tagged? "by" inner with
          | some (kind, rest) => selectorOfKind? fuel kind rest
          | none => none) tree
      match kind.place? selectorKinds with
      | some 0 =>
          match Source.record? 1 rest with
          | none => none
          | some fields => (fields.required? 0 "css" Source.text?).map .css
      | some 1 =>
          match Source.record? 3 rest with
          | none => none
          | some fields =>
              match fields.required? 0 "role" Source.text?,
                  fields.required? 1 "name" Source.text?,
                  fields.defaulted? 2 "exact" Source.bool? false with
              | some kind, some name, some exact => some (.role kind name exact)
              | _, _, _ => none
      | some 2 =>
          match Source.record? 2 rest with
          | none => none
          | some fields =>
              match fields.required? 0 "text" Source.text?,
                  fields.defaulted? 1 "exact" Source.bool? false with
              | some wanted, some exact => some (.text wanted exact)
              | _, _ => none
      | some 3 =>
          match Source.record? 2 rest with
          | none => none
          | some fields =>
              match fields.required? 0 "css" Source.text?,
                  fields.required? 1 "text" Source.text? with
              | some pattern, some wanted => some (.cssWithText pattern wanted)
              | _, _ => none
      | some 4 =>
          match Source.record? 3 rest with
          | none => none
          | some fields =>
              match fields.required? 0 "scope" scope?, fields.required? 1 "text" Source.text?,
                  fields.defaulted? 2 "exact" Source.bool? false with
              | some scope, some wanted, some exact =>
                  some (.textWithin scope.selector scope.occurrence wanted exact)
              | _, _, _ => none
      | _ => none

def Selector.read? {ν : Type} [Source ν] (tree : ν) : Option Selector :=
  match Source.tagged? "by" tree with
  | some (kind, rest) => selectorOfKind? rest.depth kind rest
  | none => none

def Locator.read? {ν : Type} [Source ν] (tree : ν) : Option Locator :=
  readLocator? Selector.read? tree

end DesktopTrial
