import DesktopTrial.Proofs.Region.Neutrality

/-!
# The verdict of a region probe

The menu is seen by a locator that picks nothing else, whenever it is shown.  So on a page
at rest a probe passes exactly when it expects of its point what the topmost element there
does, wherever the menu comes to stand and whatever the click that dismisses it meets.
-/

namespace DesktopTrial.Model

open RegionProbe (Sees Finds backgroundProbe)

variable {app : App} {menu : Locator} {dismissAt p : Point} {s t : PageState}

/-! ## Seeing the menu -/

/-- What the locator picks belongs to the context menu, and some of it has area. -/
def Recognises (app : App) (menu : Locator) (s : PageState) : Prop :=
  ∃ found, select? (s.present app) menu.selector = some found ∧
    (∀ e ∈ found, e.id = app.menuId) ∧ ∃ e ∈ found, e.box.hasArea = true

/-- The menu is seen where it is shown, and not where it is hidden. -/
theorem Recognises.sees (hrecognises : Recognises app menu s)
    (hsound : app.failing ≠ some menu.selector) {f : Element → Element} {shown : Bool}
    (houtline : ∀ e, (f e).outline = e.outline)
    (hvisible : ∀ e, (f e).sighting.visible = (shown && e.box.hasArea)) (hloaded : Loaded t)
    (hredrawn : t.elements = updateMenu app.menuId f s.elements) (clock : Nat) :
    Sees (page app) menu ⟨t, clock⟩ shown ⟨t, clock + app.queryDelay⟩ := by
  obtain ⟨found, hselect, hmenu, large, hlarge, harea⟩ := hrecognises
  have hoverall (e : Element) : (if e.id = app.menuId then f e else e).outline = e.outline := by
    split
    · exact houtline e
    · rfl
  have hpicks : select? (t.present app) menu.selector =
      some (found.map fun e => if e.id = app.menuId then f e else e) := by
    rw [PageState.present, hredrawn]
    exact (select?_present_redrawn hoverall app s menu.selector).trans (by rw [hselect]; rfl)
  have hasked := reply_found hloaded.isOpen hsound hloaded.replacements hloaded.rendered hpicks
  refine ⟨_, by rw [Run.ask, hasked], ?_⟩
  rw [List.any_map, List.any_map]
  have hseen : ∀ e ∈ found,
      (if e.id = app.menuId then f e else e).sighting.visible = (shown && e.box.hasArea) := by
    intro e he
    rw [if_pos (hmenu e he), hvisible]
  cases shown with
  | false =>
      rw [List.any_eq_false]
      intro e he
      simp [hseen e he]
  | true =>
      rw [List.any_eq_true]
      exact ⟨large, hlarge, by simp [hseen large hlarge, harea]⟩

/-! ## The course of a probe -/

theorem ask_click (app : App) (hloaded : Loaded s) (p : Point) (button : Button) (clock : Nat) :
    Run.ask (page app) (.click p button) ⟨s, clock⟩ =
      some (.ok (), ⟨s.click app p button, clock⟩) := by
  rw [Run.ask, page_reply hloaded.isOpen]
  rfl

/-- A target that is found on a page is found there at the same point at any time. -/
theorem Loaded.finds {target : ProbeTarget} {before located : Moment PageState}
    (hloaded : Loaded before.page) (hfinds : Finds (page app) target before p located)
    (clock : Nat) :
    ∃ later, Finds (page app) target ⟨before.page, clock⟩ p ⟨before.page, later⟩ := by
  cases hfinds with
  | point => exact ⟨clock, .point p _⟩
  | center hasked hshows =>
      have hunchanged : located.page = before.page :=
        Showing.query_eq_some ⟨hloaded, rfl⟩ hasked
      obtain ⟨latency, hreply⟩ := Run.ask_eq_some hasked
      rw [hunchanged] at hreply
      exact ⟨clock + latency, .center (by rw [Run.ask, hreply]) hshows⟩

/-- Before the right-click the menu is not seen. -/
theorem Recognises.sees_hidden (hrecognises : Recognises app menu s)
    (hsound : app.failing ≠ some menu.selector) (hloaded : Loaded s)
    (hhidden : MenuHidden app.menuId s.elements) (clock : Nat) :
    Sees (page app) menu ⟨s, clock⟩ false ⟨s, clock + app.queryDelay⟩ :=
  hrecognises.sees hsound (f := fun e => { e with shown := false }) (fun _ => rfl)
    (fun _ => rfl) hloaded hhidden.closeMenu_eq.symm clock

/-- After the right-click it is seen just when the element that was met opens it. -/
theorem Recognises.sees_rightClick (hrecognises : Recognises app menu s)
    (hsound : app.failing ≠ some menu.selector) (hloaded : Loaded s)
    (hhidden : MenuHidden app.menuId s.elements) (p : Point) (clock : Nat) :
    Sees (page app) menu ⟨s.click app p .secondary, clock⟩ (opensMenuAt s.elements p)
      ⟨s.click app p .secondary, clock + app.queryDelay⟩ := by
  have hclicked : (s.click app p .secondary).elements =
      if opensMenuAt s.elements p then openMenu app.menuId p s.elements
      else closeMenu app.menuId s.elements := by
    rw [PageState.secondaryClick_elements hloaded.rendered, secondaryClick_of_hidden hhidden]
  cases hopens : opensMenuAt s.elements p with
  | true =>
      rw [hopens, if_pos rfl] at hclicked
      exact hrecognises.sees hsound
        (f := fun e => { e with shown := true, box := { e.box with x := p.x, y := p.y } })
        (fun _ => rfl) (fun _ => rfl) (hloaded.click p _) hclicked clock
  | false =>
      rw [hopens, if_neg Bool.false_ne_true] at hclicked
      exact hrecognises.sees hsound (f := fun e => { e with shown := false }) (fun _ => rfl)
        (fun _ => rfl) (hloaded.click p _) hclicked clock

/-- Pages that differ in where the hidden menu stands show the same of it. -/
theorem Quiet.sees {stowed : List Element} {before looked : Moment PageState} {shown : Bool}
    (hsticky : app.stickyMenu = false) (hnothing : NothingNew stowed dismissAt)
    (hbefore : Quiet app stowed before.page) (hafter : Quiet app stowed t)
    (hsees : Sees (page app) menu before shown looked) (clock : Nat) :
    ∃ seen, Sees (page app) menu ⟨t, clock⟩ shown seen := by
  obtain ⟨found, hasked, hshown⟩ := hsees
  have hafter' : Quiet app stowed (Moment.page ⟨t, clock⟩) := hafter
  have hsame := Quiet.query_eq hsticky hnothing hbefore hafter' menu
  rw [hasked, Option.map_some, Option.map_eq_some_iff] at hsame
  obtain ⟨⟨_, seen⟩, hagain, rfl⟩ := hsame
  exact ⟨seen, found, hagain, hshown⟩

/-- Take a model page at rest, whose menu goes with the click that dismisses it, and a
locator that recognises the menu.  A probe whose target stands for a point comes to an
outcome, which passes exactly when the probe expects the menu just where the topmost shown
element opens it. -/
theorem probe_tells_region (app : App) (hsticky : app.stickyMenu = false)
    (handling : MenuHandling) (hsound : app.failing ≠ some handling.menu.selector)
    (probe : RegionProbe) {before located : Moment PageState} {p : Point}
    (hresting : Resting app handling.dismissAt before.page)
    (hrecognises : Recognises app handling.menu before.page)
    (hfinds : Finds (page app) probe.target before p located) :
    ∃ outcome after, probe.check (page app) handling before = some (.ok outcome, after) ∧
      (outcome.passed = true ↔ probe.opensMenu = opensMenuAt before.page.elements p) := by
  obtain ⟨s, clock⟩ := before
  -- The queries leave the page alone: between the looks only the two clicks change it, of which
  -- the second puts the menu away again, wherever the first has opened it.
  have hloaded : Loaded s := hresting.toLoaded
  have hclicked : Loaded (s.click app p .secondary) := hloaded.click p .secondary
  have hlook := hrecognises.sees_hidden hsound hloaded hresting.menu clock
  obtain ⟨later, hlocated⟩ := hloaded.finds hfinds (clock + app.queryDelay)
  have hseen := hrecognises.sees_rightClick hsound hloaded hresting.menu p
    (later + handling.settle)
  obtain ⟨detail, hexamined⟩ : ∃ detail, probe.examine (page app) handling ⟨s, clock⟩ =
      some (.ok ⟨opensMenuAt s.elements p == probe.opensMenu, detail⟩, _) := by
    rw [RegionProbe.examine_eq hlook hlocated]
    exact RegionProbe.clickAndLook_eq (ask_click app hloaded p .secondary later) hseen
  have hdismissed := RegionProbe.dismiss_eq
    (ask_click app hclicked handling.dismissAt .primary
      (later + handling.settle + app.queryDelay))
  have hreleased := (hresting.quiet.toShowing.rightClick p).dismissal hsticky
    hresting.nothingNew
  obtain ⟨after, hgone⟩ := Quiet.sees hsticky hresting.nothingNew hresting.quiet hreleased hlook
    (later + handling.settle + app.queryDelay + handling.settle)
  refine ⟨_, after, RegionProbe.check_eq hexamined hdismissed hgone, ?_⟩
  rw [beq_iff_eq]
  exact eq_comm

/-- A probe that expects the menu at the center of the menu bar. -/
def menubarProbe : RegionProbe := ⟨"menubar", .locator (.css ".desktop-menubar"), true⟩

/-- On the desktop the probe of the background passes, and one that expects the menu of the
menu bar does not. -/
theorem desktopPage_probed :
    (∃ outcome after, backgroundProbe.check (page desktop) coveredMenu ⟨desktopPage, 0⟩ =
      some (.ok outcome, after) ∧ outcome.passed = true) ∧
    ∃ outcome after, menubarProbe.check (page desktop) coveredMenu ⟨desktopPage, 0⟩ =
      some (.ok outcome, after) ∧ outcome.passed = false := by
  have hrecognises : Recognises desktop coveredMenu.menu desktopPage :=
    ⟨_, rfl, by decide +kernel, by decide +kernel⟩
  have hsound : desktop.failing ≠ some coveredMenu.menu.selector := nofun
  constructor
  · obtain ⟨outcome, after, hended, hpassed⟩ := probe_tells_region desktop rfl coveredMenu hsound
      backgroundProbe desktopPage_resting hrecognises (.point ⟨500, 500⟩ ⟨desktopPage, 0⟩)
    exact ⟨outcome, after, hended, hpassed.mpr (by decide +kernel)⟩
  · have hshows : Readiness.ShowsBox (.css ".desktop-menubar")
        [(Sighting.inBox ⟨0, 0, 1280, 28⟩).withText "Mynt NAS"] ⟨0, 0, 1280, 28⟩ :=
      ⟨_, rfl, by decide +kernel, rfl⟩
    have hasked : Run.ask (page desktop) (.query (.css ".desktop-menubar")) ⟨desktopPage, 0⟩ =
        some (.ok [(Sighting.inBox ⟨0, 0, 1280, 28⟩).withText "Mynt NAS"],
          ⟨desktopPage, 0⟩) := rfl
    obtain ⟨outcome, after, hended, hpassed⟩ := probe_tells_region desktop rfl coveredMenu hsound
      menubarProbe desktopPage_resting hrecognises (.center hasked hshows)
    refine ⟨outcome, after, hended, Bool.eq_false_iff.mpr fun hpass => ?_⟩
    exact absurd (hpassed.mp hpass) (by decide +kernel)

end DesktopTrial.Model
