import DesktopTrial.Check
import DesktopTrial.Proofs.Source.Denotation
import DesktopTrial.Readiness.Condition

/-!
# Locators are read as they are written

Whatever kind of tree denotes the document of a locator, a count or a condition, the
locator, the count or the condition is read from it.  A selector is read from a buffer, so
its document has to be one that a buffer keeps.
-/

namespace DesktopTrial

variable {ν : Type} [Source ν] (D : Denotation ν) {tree : ν}

/-! ## Occurrences and counts -/

theorem Occurrence.read?_denoted {occurrence : Occurrence}
    (htree : D.denotes tree occurrence.document) : read? tree = some occurrence := by
  cases occurrence with
  | first =>
      rw [read?, D.bareVariant htree]
      rfl
  | nth place =>
      obtain ⟨given, hvariant, hgiven⟩ := D.variant htree
      rw [read?, hvariant]
      exact congrArg (Option.map Occurrence.nth) (D.word64 hgiven)
  | last =>
      rw [read?, D.bareVariant htree]
      rfl

theorem Count.read?_denoted {count : Count} (htree : D.denotes tree count.document) :
    read? tree = some count := by
  cases count with
  | atLeast n =>
      obtain ⟨given, hvariant, hgiven⟩ := D.variant htree
      rw [read?, hvariant]
      exact congrArg (Option.map Count.atLeast) (D.word64 hgiven)
  | exactly n =>
      obtain ⟨given, hvariant, hgiven⟩ := D.variant htree
      rw [read?, hvariant]
      exact congrArg (Option.map Count.exactly) (D.word64 hgiven)
  | none =>
      rw [read?, D.bareVariant htree]
      rfl

/-- An occurrence that may be missing and is not. -/
theorem Occurrence.optional_denoted {occurrence : Occurrence}
    (htree : D.denotes tree occurrence.document) :
    Source.optionOf? read? tree = some (some occurrence) := by
  have hgiven : Source.option? tree = some (some tree) := by
    cases occurrence with
    | nth place => exact D.someVariant htree
    | first | last => exact D.something htree
  rw [Source.optionOf?, hgiven]
  exact congrArg (Option.map some) (read?_denoted D htree)

/-! ## Locators -/

def Selector.kindName : Selector → String
  | .css _ => "css"
  | .role _ _ _ => "role"
  | .text _ _ => "text"
  | .cssWithText _ _ => "css_with_text"
  | .textWithin _ _ _ _ => "text_within"

/-- What stands beside the kind in a selector's document. -/
def Selector.members : Selector → List (String × Document)
  | .css pattern => [("css", .text pattern)]
  | .role kind name exact => [("role", .text kind), ("name", .text name), ("exact", .bool exact)]
  | .text wanted exact => [("text", .text wanted), ("exact", .bool exact)]
  | .cssWithText pattern wanted => [("css", .text pattern), ("text", .text wanted)]
  | .textWithin scope occurrence wanted exact =>
      [("scope", locatorDocument scope.document occurrence), ("text", .text wanted),
        ("exact", .bool exact)]

theorem Selector.document_eq (selector : Selector) :
    selector.document = .mapping (("by", .text selector.kindName) :: selector.members) := by
  cases selector <;> rfl

theorem Selector.by_not_mem (selector : Selector) :
    ∀ member ∈ selector.members, member.1 ≠ "by" := by
  cases selector <;> simp [members]

/-- A locator is read where its selector is. -/
theorem readLocator?_denoted {selector? : ν → Option Selector} {selector : Selector}
    {occurrence : Option Occurrence}
    (hselector : ∀ given, D.denotes given selector.document → selector? given = some selector)
    (htree : D.denotes tree (locatorDocument selector.document occurrence)) :
    readLocator? selector? tree = some ⟨selector, occurrence⟩ := by
  cases occurrence with
  | none =>
      obtain ⟨fields, hfields, hoffers⟩ := D.record htree (by simp) 2
      have hfirst : fields.required? 0 "selector" selector? = some selector :=
        hoffers.given hselector (by simp)
      have hsecond : fields.defaulted? 1 "occurrence" (Source.optionOf? Occurrence.read?) none =
          some none := hoffers.missing (by simp)
      rw [readLocator?, hfields]
      dsimp only
      rw [hfirst, hsecond]
  | some occurrence =>
      obtain ⟨fields, hfields, hoffers⟩ := D.record htree (by simp) 2
      have hfirst : fields.required? 0 "selector" selector? = some selector :=
        hoffers.given hselector (by simp)
      have hsecond : fields.defaulted? 1 "occurrence" (Source.optionOf? Occurrence.read?) none =
          some (some occurrence) :=
        hoffers.given (fun given hgiven => occurrence.optional_denoted D hgiven) (by simp)
      rw [readLocator?, hfields]
      dsimp only
      rw [hfirst, hsecond]

/-- A scope is buffered less deeply than the selector around it. -/
theorem Selector.depth_scope_lt (scope : Selector) (occurrence : Option Occurrence)
    (wanted : String) (exact : Bool) :
    (Buffer.mapping (Document.bufferOfMembers scope.members)).depth <
      (Buffer.mapping (Document.bufferOfMembers
        (textWithin scope occurrence wanted exact).members)).depth := by
  have hselector : (Buffer.mapping (Document.bufferOfMembers scope.members)).depth ≤
      scope.document.buffer.depth := by
    rw [scope.document_eq]
    simp only [Document.buffer, Document.bufferOfMembers, Buffer.depth,
      Buffer.depth.depthOfMembers]
    omega
  have hlocator : scope.document.buffer.depth <
      (locatorDocument scope.document occurrence).buffer.depth := by
    cases occurrence <;>
      simp only [locatorDocument, Document.buffer, Document.bufferOfMembers, Buffer.depth,
        Buffer.depth.depthOfMembers] <;> omega
  have hmembers : (locatorDocument scope.document occurrence).buffer.depth <
      (Buffer.mapping (Document.bufferOfMembers
        (textWithin scope occurrence wanted exact).members)).depth := by
    simp only [members, Document.bufferOfMembers, Buffer.depth, Buffer.depth.depthOfMembers]
    omega
  omega

/-- The kinds are named apart. -/
theorem place?_kindName (selector : Selector) :
    (Key.name selector.kindName).place? selectorKinds = some (match selector with
      | .css _ => 0
      | .role _ _ _ => 1
      | .text _ _ => 2
      | .cssWithText _ _ => 3
      | .textWithin _ _ _ _ => 4) := by
  cases selector <;> rfl

theorem Selector.record?_members (selector : Selector) (count : Nat) :
    ∃ fields,
      Source.record? count (Buffer.mapping (Document.bufferOfMembers selector.members)) =
        some fields ∧ Buffer.denotation.Offers selector.members fields :=
  Buffer.denotation.record rfl (by cases selector <;> simp [members]) count

/-- With fuel for its depth, a selector is read from what stands beside its kind. -/
theorem selectorOfKind?_members (selector : Selector) (fuel : Nat)
    (hfuel : (Buffer.mapping (Document.bufferOfMembers selector.members)).depth ≤ fuel + 1) :
    selectorOfKind? (fuel + 1) (.name selector.kindName)
      (.mapping (Document.bufferOfMembers selector.members)) = some selector := by
  induction selector generalizing fuel with
  | css pattern =>
      obtain ⟨fields, hfields, hoffers⟩ := (Selector.css pattern).record?_members 1
      have hpattern : fields.required? 0 "css" Source.text? = some pattern :=
        hoffers.given (fun _ => Buffer.denotation.text) (by simp [Selector.members])
      simp only [selectorOfKind?, place?_kindName, hfields, hpattern, Option.map_some]
  | role kind name exact =>
      obtain ⟨fields, hfields, hoffers⟩ := (Selector.role kind name exact).record?_members 3
      have hkind : fields.required? 0 "role" Source.text? = some kind :=
        hoffers.given (fun _ => Buffer.denotation.text) (by simp [Selector.members])
      have hname : fields.required? 1 "name" Source.text? = some name :=
        hoffers.given (fun _ => Buffer.denotation.text) (by simp [Selector.members])
      have hexact : fields.defaulted? 2 "exact" Source.bool? false = some exact :=
        hoffers.given (fun _ => Buffer.denotation.bool) (by simp [Selector.members])
      simp only [selectorOfKind?, place?_kindName, hfields, hkind, hname, hexact]
  | text wanted exact =>
      obtain ⟨fields, hfields, hoffers⟩ := (Selector.text wanted exact).record?_members 2
      have hwanted : fields.required? 0 "text" Source.text? = some wanted :=
        hoffers.given (fun _ => Buffer.denotation.text) (by simp [Selector.members])
      have hexact : fields.defaulted? 1 "exact" Source.bool? false = some exact :=
        hoffers.given (fun _ => Buffer.denotation.bool) (by simp [Selector.members])
      simp only [selectorOfKind?, place?_kindName, hfields, hwanted, hexact]
  | cssWithText pattern wanted =>
      obtain ⟨fields, hfields, hoffers⟩ := (Selector.cssWithText pattern wanted).record?_members 2
      have hpattern : fields.required? 0 "css" Source.text? = some pattern :=
        hoffers.given (fun _ => Buffer.denotation.text) (by simp [Selector.members])
      have hwanted : fields.required? 1 "text" Source.text? = some wanted :=
        hoffers.given (fun _ => Buffer.denotation.text) (by simp [Selector.members])
      simp only [selectorOfKind?, place?_kindName, hfields, hpattern, hwanted]
  | textWithin scope occurrence wanted exact ih =>
      obtain ⟨fields, hfields, hoffers⟩ :=
        (Selector.textWithin scope occurrence wanted exact).record?_members 3
      -- The scope lies deeper, so that less fuel is enough for it.
      have hdepth := scope.depth_scope_lt occurrence wanted exact
      obtain ⟨fuel, rfl⟩ : ∃ n, fuel = n + 1 :=
        Nat.exists_eq_succ_of_ne_zero (by simp only [Buffer.depth] at hdepth hfuel; omega)
      have hscope (read : Buffer → Option Selector)
          (hread : ∀ given kind rest, Source.tagged? "by" given = some (kind, rest) →
            read given = selectorOfKind? (fuel + 1) kind rest) :
          ∀ given, Buffer.denotation.denotes given scope.document → read given = some scope := by
        intro given hgiven
        rw [scope.document_eq] at hgiven
        rw [hread _ _ _ (Buffer.denotation.tagged hgiven scope.by_not_mem trivial)]
        exact ih fuel (by omega)
      have hwanted : fields.required? 1 "text" Source.text? = some wanted :=
        hoffers.given (fun _ => Buffer.denotation.text) (by simp [Selector.members])
      have hexact : fields.defaulted? 2 "exact" Source.bool? false = some exact :=
        hoffers.given (fun _ => Buffer.denotation.bool) (by simp [Selector.members])
      have hlocator (read : Buffer → Option Selector)
          (hread : ∀ given kind rest, Source.tagged? "by" given = some (kind, rest) →
            read given = selectorOfKind? (fuel + 1) kind rest) :
          fields.required? 0 "scope" (readLocator? read) = some ⟨scope, occurrence⟩ :=
        hoffers.given (fun _ => readLocator?_denoted Buffer.denotation (hscope read hread))
          (List.mem_cons_self (a := ("scope", locatorDocument scope.document occurrence)))
      rw [selectorOfKind?]
      simp only [place?_kindName, hfields, hwanted, hexact]
      rw [hlocator]
      intro given kind rest htagged
      rw [htagged]

/-- A selector is read from any tree that denotes it and keeps its members. -/
theorem Selector.read?_denoted {selector : Selector} (hkeeps : D.keeps selector.members)
    (htree : D.denotes tree selector.document) : read? tree = some selector := by
  rw [selector.document_eq] at htree
  rw [read?, D.tagged htree selector.by_not_mem hkeeps]
  exact selectorOfKind?_members selector _ (Nat.le_refl _)

theorem Locator.read?_denoted {locator : Locator} (hkeeps : D.keeps locator.selector.members)
    (htree : D.denotes tree locator.document) : read? tree = some locator :=
  readLocator?_denoted D (fun _ => Selector.read?_denoted D hkeeps) htree

/-! ## Conditions -/

namespace Condition

def kindName : Condition → String
  | .roleVisible _ _ => "role_visible"
  | .textVisible _ _ => "text_visible"
  | .selectorPresent _ => "selector_present"

/-- What stands beside the kind in a condition's document. -/
def members : Condition → List (String × Document)
  | .roleVisible kind name => [("role", .text kind), ("name", .text name)]
  | .textVisible wanted occurrence =>
      [("text", .text wanted), ("occurrence", occurrence.document)]
  | .selectorPresent pattern => [("css", .text pattern)]

variable (condition : Condition)

theorem document_eq :
    condition.document = .mapping (("when", .text condition.kindName) :: condition.members) := by
  cases condition <;> rfl

theorem when_not_mem : ∀ member ∈ condition.members, member.1 ≠ "when" := by
  cases condition <;> simp [members]

/-- The kinds are named apart. -/
theorem place?_kindName :
    (Key.name condition.kindName).place? ["role_visible", "text_visible", "selector_present"] =
      some (match condition with
        | .roleVisible _ _ => 0
        | .textVisible _ _ => 1
        | .selectorPresent _ => 2) := by
  cases condition <;> rfl

theorem record?_members (count : Nat) :
    ∃ fields,
      Source.record? count (Buffer.mapping (Document.bufferOfMembers condition.members)) =
        some fields ∧ Buffer.denotation.Offers condition.members fields :=
  Buffer.denotation.record rfl (by cases condition <;> simp [members]) count

/-- A condition is read from any tree that denotes it and keeps its members. -/
theorem read?_denoted {condition : Condition} (hkeeps : D.keeps condition.members)
    (htree : D.denotes tree condition.document) : read? tree = some condition := by
  rw [condition.document_eq] at htree
  rw [read?, D.tagged htree condition.when_not_mem hkeeps]
  cases condition with
  | roleVisible kind name =>
      obtain ⟨fields, hfields, hoffers⟩ := (roleVisible kind name).record?_members 2
      have hkind : fields.required? 0 "role" Source.text? = some kind :=
        hoffers.given (fun _ => Buffer.denotation.text) (by simp [members])
      have hname : fields.required? 1 "name" Source.text? = some name :=
        hoffers.given (fun _ => Buffer.denotation.text) (by simp [members])
      simp only [place?_kindName, hfields, hkind, hname]
  | textVisible wanted occurrence =>
      obtain ⟨fields, hfields, hoffers⟩ := (textVisible wanted occurrence).record?_members 2
      have hwanted : fields.required? 0 "text" Source.text? = some wanted :=
        hoffers.given (fun _ => Buffer.denotation.text) (by simp [members])
      have hoccurrence : fields.required? 1 "occurrence" Occurrence.read? = some occurrence :=
        hoffers.given (fun _ => Occurrence.read?_denoted Buffer.denotation) (by simp [members])
      simp only [place?_kindName, hfields, hwanted, hoccurrence]
  | selectorPresent pattern =>
      obtain ⟨fields, hfields, hoffers⟩ := (selectorPresent pattern).record?_members 1
      have hpattern : fields.required? 0 "css" Source.text? = some pattern :=
        hoffers.given (fun _ => Buffer.denotation.text) (by simp [members])
      simp only [place?_kindName, hfields, hpattern, Option.map_some]

end Condition

end DesktopTrial
