import DesktopTrial.Proofs.Model.Answering
import DesktopTrial.Proofs.Text.Folding

/-!
# Narrower locators

A locator is made narrower by asking for the whole text, for a scope around a text, or for a
text beside a CSS selector.  Each of them only takes matches away, since it adds a condition to
those that decide which elements are kept, and a selector that has no room for the condition
stays as it is.
-/

namespace DesktopTrial.Model

variable {app : App} {s : PageState} {present : List Element}

/-! ## Conditions on elements -/

/-- A text that is the wanted one as a whole also has it in a part. -/
theorem textMatches_of_exact {actual wanted : String} (exact : Bool)
    (hwhole : textMatches actual wanted true = true) : textMatches actual wanted exact = true := by
  obtain rfl : actual = wanted := by simpa [textMatches] using hwhole
  cases exact with
  | true => exact hwhole
  | false => exact Text.contains_self _

/-- Among elements none of which is inside itself, the texts in a scope are those that pass
both tests. -/
theorem Acyclic.select?_textWithin (hacyclic : Acyclic present) {scope : Selector}
    {containers : List Element} (hscope : select? present scope = some containers)
    (occurrence : Option Occurrence) (wanted : String) (exact : Bool) :
    select? present (.textWithin scope occurrence wanted exact) =
      some (present.filter fun e => textMatches e.text wanted exact &&
        isInside present ((picked occurrence containers).map Element.id) e == some true) := by
  rw [select?, hscope]
  apply filterM_eq_filter
  intro e _
  cases textMatches e.text wanted exact with
  | false => rfl
  | true =>
      have hfound : isInside present ((picked occurrence containers).map Element.id) e ≠ none :=
        hacyclic.isInside_ne_none
      obtain ⟨inside, hinside⟩ := Option.ne_none_iff_exists'.mp hfound
      cases inside <;> simp [hinside]

theorem Acyclic.exists_select? (hacyclic : Acyclic present) (selector : Selector) :
    ∃ found, select? present selector = some found := by
  apply Option.ne_none_iff_exists'.mp
  intro hnone
  obtain ⟨e, hring⟩ := ((select?_eq_none_iff selector).mp hnone).exists_ring
  exact hacyclic e hring

/-! ## Narrower selectors -/

/-- Both selectors pick elements, and the one picks some of those that the other picks, in the
same order. -/
def Narrows (present : List Element) (narrow wide : Selector) : Prop :=
  ∃ kept found, select? present narrow = some kept ∧ select? present wide = some found ∧
    kept.Sublist found

theorem Narrows.refl (hacyclic : Acyclic present) (selector : Selector) :
    Narrows present selector selector := by
  obtain ⟨found, hfound⟩ := hacyclic.exists_select? selector
  exact ⟨found, found, hfound, hfound, .refl found⟩

/-- A selector is narrowed by a stronger condition on the elements. -/
theorem Narrows.of_filter {narrow wide : Selector} {keeps meets : Element → Bool}
    (hnarrow : select? present narrow = some (present.filter keeps))
    (hwide : select? present wide = some (present.filter meets))
    (himplies : ∀ e, keeps e = true → meets e = true) : Narrows present narrow wide :=
  ⟨_, _, hnarrow, hwide, List.monotone_filter_right present himplies⟩

theorem Acyclic.exact_narrows (hacyclic : Acyclic present) (locator : Locator) :
    Narrows present locator.exact.selector locator.selector := by
  obtain ⟨selector, occurrence⟩ := locator
  cases selector with
  | css pattern => exact .refl hacyclic _
  | cssWithText pattern wanted => exact .refl hacyclic _
  | role kind name exact =>
      refine .of_filter rfl rfl fun e hkeeps => ?_
      obtain ⟨hrole, hname⟩ := Bool.and_eq_true_iff.mp hkeeps
      exact Bool.and_eq_true_iff.mpr ⟨hrole, textMatches_of_exact exact hname⟩
  | text wanted exact => exact .of_filter rfl rfl fun e hkeeps => textMatches_of_exact exact hkeeps
  | textWithin scope picks wanted exact =>
      obtain ⟨containers, hscope⟩ := hacyclic.exists_select? scope
      refine .of_filter (hacyclic.select?_textWithin hscope picks wanted true)
        (hacyclic.select?_textWithin hscope picks wanted exact) fun e hkeeps => ?_
      obtain ⟨htext, hinside⟩ := Bool.and_eq_true_iff.mp hkeeps
      exact Bool.and_eq_true_iff.mpr ⟨textMatches_of_exact exact htext, hinside⟩

theorem Acyclic.within_narrows (hacyclic : Acyclic present) (locator scope : Locator) :
    Narrows present (locator.within scope).selector locator.selector := by
  obtain ⟨selector, occurrence⟩ := locator
  cases selector with
  | text wanted exact =>
      obtain ⟨containers, hscope⟩ := hacyclic.exists_select? scope.selector
      exact .of_filter (hacyclic.select?_textWithin hscope scope.occurrence wanted exact) rfl
        fun e hkeeps => (Bool.and_eq_true_iff.mp hkeeps).1
  | css pattern => exact .refl hacyclic _
  | role kind name exact => exact .refl hacyclic _
  | cssWithText pattern wanted => exact .refl hacyclic _
  | textWithin inner picks wanted exact => exact .refl hacyclic _

theorem Acyclic.withText_narrows (hacyclic : Acyclic present) (wanted : String)
    (locator : Locator) :
    Narrows present (locator.withText wanted).selector locator.selector := by
  obtain ⟨selector, occurrence⟩ := locator
  cases selector with
  | css pattern =>
      exact .of_filter rfl rfl fun e hkeeps => (Bool.and_eq_true_iff.mp hkeeps).1
  | role kind name exact => exact .refl hacyclic _
  | text sought exact => exact .refl hacyclic _
  | cssWithText pattern sought => exact .refl hacyclic _
  | textWithin scope picks sought exact => exact .refl hacyclic _

/-! ## Narrower queries -/

/-- The page answers a query with these sightings, and is left as it was. -/
def Lists (app : App) (s : PageState) (locator : Locator) (found : List Sighting) : Prop :=
  (page app).reply s (.query locator) = .answered app.queryDelay (.ok found) s

/-- A page in this state answers queries from its document. -/
structure PageState.Settled (app : App) (s : PageState) : Prop where
  opened : s.closed = false
  current : s.replacements = 0
  sound : app.failing = none

theorem PageState.Settled.lists (hsettled : s.Settled app) {locator : Locator}
    {found : List Element} (hfound : select? (s.present app) locator.selector = some found) :
    Lists app s locator (if s.rendered then found.map Element.sighting else []) := by
  rw [Lists, page_reply hsettled.opened, openReply, queryReply, hsettled.sound, hsettled.current,
    hfound]
  cases s.rendered <;> rfl

/-- Both queries are answered, the one with some of what the other is answered with, in the same
order. -/
def Refines (app : App) (s : PageState) (narrow wide : Locator) : Prop :=
  ∃ kept found, Lists app s narrow kept ∧ Lists app s wide found ∧ kept.Sublist found

theorem PageState.Settled.refines (hsettled : s.Settled app) {narrow wide : Locator}
    (hnarrows : Narrows (s.present app) narrow.selector wide.selector) :
    Refines app s narrow wide := by
  obtain ⟨kept, found, hkept, hfound, hsublist⟩ := hnarrows
  refine ⟨_, _, hsettled.lists hkept, hsettled.lists hfound, ?_⟩
  cases s.rendered with
  | true => exact hsublist.map Element.sighting
  | false => exact .refl []

/-- On a settled page none of whose elements is inside itself, a locator that is asked to be
exact, to look inside a scope or to hold a text finds some of what it found before, in the same
order.  Exactness may be asked for before or after the scope, and before or after the
occurrence. -/
theorem builders_narrow (hsettled : s.Settled app) (hacyclic : Acyclic (s.present app))
    (locator scope : Locator) (wanted : String) (occurrence : Occurrence) :
    Refines app s locator.exact locator ∧
      Refines app s (locator.within scope) locator ∧
      Refines app s (locator.withText wanted) locator ∧
      (locator.within scope).exact = locator.exact.within scope ∧
      (locator.atOccurrence occurrence).exact = locator.exact.atOccurrence occurrence := by
  refine ⟨hsettled.refines (hacyclic.exact_narrows locator),
    hsettled.refines (hacyclic.within_narrows locator scope),
    hsettled.refines (hacyclic.withText_narrows wanted locator), ?_, ?_⟩
  · obtain ⟨selector, _⟩ := locator
    cases selector <;> rfl
  · obtain ⟨selector, _⟩ := locator
    cases selector <;> rfl

def panelApp : App := { elements := panelElements, documentPath := "/" }

def panelPage : PageState := (PageState.fresh panelApp).visit panelApp "http://h/"

/-- The load, as it is told in the second panel of the main part. -/
def secondPanelLoads : Locator :=
  (Locator.byText "Load").within ⟨.textWithin (.css "main") none "panel" false, some (.nth 1)⟩

/-- Three texts in the second panel tell of the load, and two of them of nothing else. -/
theorem panelPage_narrowed :
    panelPage.Settled panelApp ∧ Acyclic (panelPage.present panelApp) ∧
      ∃ kept found, Lists panelApp panelPage secondPanelLoads.exact kept ∧
        Lists panelApp panelPage secondPanelLoads found ∧ kept.Sublist found ∧
        kept.map Sighting.text = ["Load", "Load"] ∧
        found.map Sighting.text = ["Load", "Load average", "Load"] := by
  have hsettled : panelPage.Settled panelApp := ⟨rfl, rfl, rfl⟩
  have hacyclic : Acyclic (panelPage.present panelApp) := .of_rank panelDepth (by decide)
  have hrendered : panelPage.rendered = true := by decide +kernel
  have htexts {locator : Locator} {found : List Sighting}
      (hfound : Lists panelApp panelPage locator found) :
      some (found.map Sighting.text) =
        (select? (panelPage.present panelApp) locator.selector).map (·.map (·.sighting.text)) := by
    obtain ⟨elements, helements⟩ := hacyclic.exists_select? locator.selector
    have hsame := hfound.symm.trans (hsettled.lists helements)
    rw [hrendered] at hsame
    cases hsame
    simp [helements, Function.comp_def]
  obtain ⟨⟨kept, found, hkept, hfound, hsublist⟩, -⟩ :=
    builders_narrow hsettled hacyclic secondPanelLoads (.css "main") "panel" .first
  refine ⟨hsettled, hacyclic, kept, found, hkept, hfound, hsublist, ?_, ?_⟩
  · rw [← Option.some.injEq, htexts hkept]
    decide +kernel
  · rw [← Option.some.injEq, htexts hfound]
    decide +kernel

end DesktopTrial.Model
