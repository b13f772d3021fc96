import DesktopTrial.Model.Selection
import DesktopTrial.Proofs.Model.Click

/-!
# Selection asks neither whether nor where elements are shown

A selector picks the same elements whether they are shown or hidden, and wherever their
boxes are.  What is seen of a hidden element does not tell its box.
-/

namespace DesktopTrial.Model

@[simp]
theorem Element.fits_outline (e : Element) (selector : Selector) :
    e.outline.fits selector = e.fits selector := by
  cases selector <;> rfl

/-- A text narrows what a CSS selector picks. -/
theorem select?_cssWithText {present found : List Element} {css : String}
    (hcss : select? present (.css css) = some found) (wanted : String) :
    select? present (.cssWithText css wanted) =
      some (found.filter fun e => textMatches e.text wanted false) := by
  obtain rfl : present.filter (·.fits (.css css)) = found := Option.some.inj hcss
  rw [List.filter_filter]
  change some (present.filter (·.fits (.cssWithText css wanted))) = _
  simp only [Element.fits, Bool.and_comm]

section Redrawn

variable {f : Element → Element} (houtline : ∀ e, (f e).outline = e.outline)
include houtline

theorem fits_redrawn (e : Element) (selector : Selector) :
    (f e).fits selector = e.fits selector := by
  rw [← Element.fits_outline, houtline, Element.fits_outline]

theorem parentOf?_redrawn (present : List Element) (id : String) :
    parentOf? (present.map f) id = parentOf? present id := by
  have hsame (e : Element) : (f e).id = e.id ∧ (f e).parent = e.parent := by
    obtain ⟨_, _, hredrawn⟩ := Element.outline_eq (houtline e)
    rw [hredrawn]
    exact ⟨rfl, rfl⟩
  simp only [parentOf?, List.find?_map, Option.bind_map, Function.comp_def, hsame]

theorem meets_redrawn (present : List Element) (roots : List String) (fuel : Nat)
    (next : Option String) :
    meets (present.map f) roots fuel next = meets present roots fuel next := by
  induction fuel generalizing next with
  | zero => cases next <;> rfl
  | succ fuel ih =>
      cases next with
      | none => rfl
      | some id => simp only [meets, parentOf?_redrawn houtline, ih]

theorem isInside_redrawn (present : List Element) (roots : List String) (e : Element) :
    isInside (present.map f) roots (f e) = isInside present roots e := by
  rw [isInside, isInside, meets_redrawn houtline, List.length_map]
  obtain ⟨_, _, hredrawn⟩ := Element.outline_eq (houtline e)
  rw [hredrawn]

omit houtline in
/-- The elements so far are redrawn like those that are still to come. -/
theorem filterAuxM_map {keep keep' : Element → Option Bool}
    (hkeep : ∀ e, keep' (f e) = keep e) (elements found : List Element) :
    (elements.map f).filterAuxM keep' (found.map f) =
      (elements.filterAuxM keep found).map (List.map f) := by
  induction elements generalizing found with
  | nil => rfl
  | cons e rest ih =>
      rw [List.map_cons, List.filterAuxM, List.filterAuxM, hkeep]
      cases keep e with
      | none => rfl
      | some kept =>
          cases kept with
          | false => exact ih found
          | true => exact ih (e :: found)

omit houtline in
theorem filterM_map {keep keep' : Element → Option Bool}
    (hkeep : ∀ e, keep' (f e) = keep e) (elements : List Element) :
    (elements.map f).filterM keep' = (elements.filterM keep).map (List.map f) := by
  have hfound : (elements.map f).filterAuxM keep' [] =
      (elements.filterAuxM keep []).map (List.map f) := filterAuxM_map hkeep elements []
  rw [List.filterM, List.filterM, hfound]
  cases elements.filterAuxM keep [] with
  | none => rfl
  | some found =>
      change some (found.map f).reverse = some (found.reverse.map f)
      rw [List.map_reverse]

theorem picked_redrawn (occurrence : Option Occurrence) (containers : List Element) :
    (picked occurrence (containers.map f)).map (·.id) =
      (picked occurrence containers).map (·.id) := by
  have hid : (fun e : Element => e.id) ∘ f = fun e => e.id := by
    funext e
    obtain ⟨_, _, hredrawn⟩ := Element.outline_eq (houtline e)
    rw [Function.comp_apply, hredrawn]
  have hfound (found : Option Element) :
      (found.map f).toList.map (·.id) = found.toList.map (·.id) := by
    rw [Option.toList_map, List.map_map, hid]
  cases occurrence with
  | none => rw [picked, picked, List.map_map, hid]
  | some occurrence =>
      cases occurrence with
      | first => simp only [picked, Occurrence.pick?, List.head?_map, hfound]
      | nth position => simp only [picked, Occurrence.pick?, List.getElem?_map, hfound]
      | last => simp only [picked, Occurrence.pick?, List.getLast?_map, hfound]

/-- A selector picks the same elements, whether they are shown or not and wherever they
stand. -/
theorem select?_redrawn (present : List Element) (selector : Selector) :
    select? (present.map f) selector = (select? present selector).map (List.map f) := by
  have hfilter (selector : Selector) :
      (present.map f).filter (fun e => e.fits selector) =
        (present.filter fun e => e.fits selector).map f := by
    rw [List.filter_map]
    exact congrArg (List.map _) (List.filter_congr fun e _ => fits_redrawn houtline e selector)
  induction selector with
  | textWithin scope occurrence wanted exact ih =>
      rw [select?, select?, ih]
      cases select? present scope with
      | none => rfl
      | some containers =>
          simp only [Option.map_some, picked_redrawn houtline]
          apply filterM_map
          intro e
          rw [isInside_redrawn houtline]
          obtain ⟨_, _, hredrawn⟩ := Element.outline_eq (houtline e)
          rw [hredrawn]
  | css pattern => exact congrArg some (hfilter _)
  | role kind name exact => exact congrArg some (hfilter _)
  | text wanted exact => exact congrArg some (hfilter _)
  | cssWithText pattern wanted => exact congrArg some (hfilter _)

/-- Redrawn elements are there as long as the backend is. -/
theorem select?_present_redrawn (app : App) (s : PageState) (selector : Selector) :
    select? (PageState.present app { s with elements := s.elements.map f }) selector =
      (select? (s.present app) selector).map (List.map f) := by
  have hneeds : ((fun e : Element => !e.needsBackend || app.backendAvailable) ∘ f) =
      fun e => !e.needsBackend || app.backendAvailable := by
    funext e
    obtain ⟨_, _, hredrawn⟩ := Element.outline_eq (houtline e)
    rw [Function.comp_apply, hredrawn]
  rw [PageState.present, List.filter_map, hneeds]
  exact select?_redrawn houtline _ selector

end Redrawn

def moved (place : Element → Box) (e : Element) : Element := { e with box := place e }

/-- Only where a shown element stands is seen. -/
theorem moved_sighting {place : Element → Box} {e : Element}
    (hplace : e.shown = true → place e = e.box) : (moved place e).sighting = e.sighting := by
  cases hshown : e.shown with
  | false => simp [Element.sighting, moved, hshown]
  | true => simp [Element.sighting, moved, hshown, hplace hshown]

end DesktopTrial.Model
