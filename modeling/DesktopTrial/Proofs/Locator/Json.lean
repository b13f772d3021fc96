import DesktopTrial.Proofs.Json.Denotation
import DesktopTrial.Proofs.Locator.Data

/-!
# Locators are read back from JSON

Locators, conditions, counts and occurrences are read from the JSON text that is written
for them.  Only a locator can nest without a bound, by its scopes, and it is read as deep
as the reader goes.
-/

namespace DesktopTrial

open Json (decode?)

theorem Document.natural_whole {n : Nat} (hbound : n < UInt64.size) : (natural n).Whole := by
  constructor
  · simp only [Json.leastInteger, Int.ofNat_eq_natCast]
    omega
  · simp only [Json.greatestInteger, Int.ofNat_eq_natCast]
    omega

namespace Occurrence

theorem document_whole (occurrence : Occurrence) : occurrence.document.Whole := by
  cases occurrence with
  | first | last => trivial
  | nth place => exact Document.natural_whole place.toNat_lt

theorem depth_document_le (occurrence : Occurrence) : occurrence.document.toJson.depth ≤ 1 := by
  cases occurrence with
  | first | last => exact Nat.zero_le 1
  | nth place => exact Nat.le_refl 1

theorem decode?_json (occurrence : Occurrence) :
    decode? read? occurrence.document.json = some occurrence :=
  Json.decode?_denoted (Json.read?_compact occurrence.document_whole.toJson)
    (Nat.le_trans occurrence.depth_document_le (by decide)) fun _ => read?_denoted Json.denotation

end Occurrence

namespace Count

theorem document_whole (count : Count) : count.document.Whole := by
  cases count with
  | atLeast n | exactly n => exact Document.natural_whole n.toNat_lt
  | none => trivial

theorem depth_document_le (count : Count) : count.document.toJson.depth ≤ 1 := by
  cases count with
  | atLeast n | exactly n => exact Nat.le_refl 1
  | none => exact Nat.zero_le 1

theorem decode?_json (count : Count) : decode? read? count.document.json = some count :=
  Json.decode?_denoted (Json.read?_compact count.document_whole.toJson)
    (Nat.le_trans count.depth_document_le (by decide)) fun _ => read?_denoted Json.denotation

end Count

namespace Condition

theorem members_whole (condition : Condition) : Document.WholeMembers condition.members := by
  cases condition with
  | roleVisible | selectorPresent => simp [members, Document.WholeMembers, Document.Whole]
  | textVisible wanted occurrence => exact ⟨trivial, occurrence.document_whole, trivial⟩

theorem depth_document_le (condition : Condition) : condition.document.toJson.depth ≤ 2 := by
  cases condition with
  | roleVisible | selectorPresent => exact Nat.le_succ 1
  | textVisible wanted occurrence =>
      have hoccurrence := occurrence.depth_document_le
      simp only [document, Document.toJson, Document.membersToJson, Json.depth,
        Json.depthOfMembers]
      omega

theorem decode?_json (condition : Condition) :
    decode? read? condition.document.json = some condition := by
  have hwhole : condition.document.Whole := by
    rw [condition.document_eq]
    exact ⟨trivial, condition.members_whole⟩
  exact Json.decode?_denoted (Json.read?_compact hwhole.toJson)
    (Nat.le_trans condition.depth_document_le (by decide)) fun _ =>
      read?_denoted Json.denotation condition.members_whole

end Condition

theorem locatorDocument_whole {selector : Document} (hselector : selector.Whole)
    (occurrence : Option Occurrence) : (locatorDocument selector occurrence).Whole := by
  cases occurrence with
  | none => exact ⟨hselector, trivial⟩
  | some occurrence => exact ⟨hselector, occurrence.document_whole, trivial⟩

theorem Selector.members_whole (selector : Selector) : Document.WholeMembers selector.members := by
  induction selector with
  | css | role | text | cssWithText => simp [members, Document.WholeMembers, Document.Whole]
  | textWithin scope occurrence wanted exact ih =>
      have hscope : scope.document.Whole := by
        rw [scope.document_eq]
        exact ⟨trivial, ih⟩
      exact ⟨locatorDocument_whole hscope occurrence, trivial, trivial, trivial⟩

theorem Locator.document_whole (locator : Locator) : locator.document.Whole := by
  have hselector : locator.selector.document.Whole := by
    rw [locator.selector.document_eq]
    exact ⟨trivial, locator.selector.members_whole⟩
  exact locatorDocument_whole hselector locator.occurrence

theorem Locator.decode?_json {locator : Locator}
    (hdepth : locator.document.toJson.depth ≤ Json.nestingLimit) :
    decode? read? locator.document.json = some locator :=
  Json.decode?_denoted (Json.read?_compact locator.document_whole.toJson) hdepth fun _ =>
    read?_denoted Json.denotation locator.selector.members_whole

/-- What is written as JSON is read back: every locator as deep as the reader goes, and
every condition, count and occurrence. -/
theorem json_survived :
    (∀ locator : Locator, locator.document.toJson.depth ≤ Json.nestingLimit →
      decode? Locator.read? locator.document.json = some locator) ∧
    (∀ condition : Condition,
      decode? Condition.read? condition.document.json = some condition) ∧
    (∀ count : Count, decode? Count.read? count.document.json = some count) ∧
    ∀ occurrence : Occurrence,
      decode? Occurrence.read? occurrence.document.json = some occurrence :=
  ⟨fun _ => Locator.decode?_json, Condition.decode?_json, Count.decode?_json,
    Occurrence.decode?_json⟩

/-- A label in the third dialog: the scope keeps its place. -/
def labelInDialog : Locator where
  selector := .textWithin (.role "dialog" "Share \"file\"" true) (some (.nth 2)) "Label\n" false
  occurrence := some .last

theorem labelInDialog_survived :
    labelInDialog.document.toJson.depth ≤ Json.nestingLimit ∧
      decode? Locator.read? labelInDialog.document.json = some labelInDialog := by
  have hdepth : labelInDialog.document.toJson.depth ≤ Json.nestingLimit := by decide
  exact ⟨hdepth, json_survived.1 labelInDialog hdepth⟩

end DesktopTrial
