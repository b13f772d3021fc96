import DesktopTrial.Model.Page
import DesktopTrial.Proofs.Model.Click
import DesktopTrial.Proofs.Model.Selection
import DesktopTrial.Proofs.Region.Dismissal
import DesktopTrial.Proofs.Run.Order

/-!
# Region probes leave a model page as it was

Probing a region may open the context menu, move it and choose one of its items.  Where
the click that dismisses the menu shows nothing new, all that is left of a probe is where
the hidden menu stands, which no query tells.  So the order of probes does not matter.
-/

namespace DesktopTrial

open RegionProbe (backgroundProbe)

/-- The calls of a probe whose menu is dismissed at some point. -/
def Call.probesAt (dismissAt : Point) : Call → Prop
  | .query _ => True
  | .click _ .secondary => True
  | .click p .primary => p = dismissAt
  | _ => False

namespace Model

/-- An open page that shows the application's document, which is not about to be replaced. -/
structure Loaded (s : PageState) : Prop where
  isOpen : s.closed = false
  rendered : s.rendered = true
  replacements : s.replacements = 0

/-- A page without an open menu, on which a click at the point where menus are dismissed
shows nothing new. -/
structure Resting (app : App) (dismissAt : Point) (s : PageState) : Prop extends Loaded s where
  menu : MenuHidden app.menuId s.elements
  beneath : ∀ target, topmost? s.elements dismissAt = some target →
    ∀ id ∈ target.reveals, ∀ e,
      s.elements.find? (fun e => e.id == id) = some e → e.shown = true

/-- A page with these elements once the menu is put away. -/
structure Showing (app : App) (stowed : List Element) (s : PageState) : Prop
    extends Loaded s where
  elements : stowMenu app.menuId s.elements = stowed

/-- The menu is hidden, too. -/
structure Quiet (app : App) (stowed : List Element) (s : PageState) : Prop
    extends Showing app stowed s where
  menu : MenuHidden app.menuId s.elements

/-- Nothing that is hidden in these elements is revealed by a click at this point. -/
def NothingNew (stowed : List Element) (p : Point) : Prop :=
  ∀ target, topmost? stowed p = some target →
    ∀ id ∈ target.reveals, showFirst? id stowed = none

/-- Two pages that are the same but for where a hidden menu stands. -/
structure Twins (app : App) (stowed : List Element) (s t : PageState) : Prop where
  left : Showing app stowed s
  right : Showing app stowed t
  menu : s.elements = t.elements ∨
    MenuHidden app.menuId s.elements ∧ MenuHidden app.menuId t.elements

variable {app : App} {stowed : List Element} {dismissAt : Point} {s t : PageState}

namespace Resting

theorem quiet (hresting : Resting app dismissAt s) :
    Quiet app (stowMenu app.menuId s.elements) s :=
  ⟨⟨hresting.toLoaded, rfl⟩, hresting.menu⟩

theorem nothingNew (hresting : Resting app dismissAt s) :
    NothingNew (stowMenu app.menuId s.elements) dismissAt := by
  intro target htarget id hid
  rw [hresting.menu.topmost?_stowMenu] at htarget
  rw [hresting.menu.showFirst?_stowMenu]
  exact showFirst?_eq_none_iff.mpr (hresting.beneath target htarget id hid)

end Resting

theorem Quiet.resting (hquiet : Quiet app stowed s) (hnothing : NothingNew stowed dismissAt) :
    Resting app dismissAt s := by
  refine ⟨hquiet.toLoaded, hquiet.menu, ?_⟩
  intro target htarget id hid
  have hstowed : topmost? stowed dismissAt = some target := by
    rw [← hquiet.elements, hquiet.menu.topmost?_stowMenu, htarget]
  have hshow := hnothing target hstowed id hid
  rw [← hquiet.elements, hquiet.menu.showFirst?_stowMenu] at hshow
  exact showFirst?_eq_none_iff.mp hshow

/-! ## Queries -/

/-- The box of an element once the hidden menu is put into the corner. -/
def stowedBox (menuId : String) (e : Element) : Box :=
  if e.id = menuId ∧ e.shown = false then { e.box with x := 0, y := 0 } else e.box

theorem MenuHidden.stowMenu_eq_map {menuId : String} {elements : List Element}
    (hhidden : MenuHidden menuId elements) :
    stowMenu menuId elements = elements.map (moved (stowedBox menuId)) := by
  apply List.map_congr_left
  intro e hmember
  by_cases hmenu : e.id = menuId
  · simp [moved, stowedBox, hmenu, hhidden e hmember hmenu]
  · simp [moved, stowedBox, hmenu]

/-- What is seen does not tell where a hidden menu stands. -/
theorem MenuHidden.sightings_stowMenu {elements : List Element}
    (hhidden : MenuHidden app.menuId elements) (selector : Selector) :
    (select? ((stowMenu app.menuId elements).filter fun e =>
        !e.needsBackend || app.backendAvailable) selector).map (List.map Element.sighting) =
      (select? (elements.filter fun e => !e.needsBackend || app.backendAvailable)
        selector).map (List.map Element.sighting) := by
  have hsighting (e : Element) :
      (moved (stowedBox app.menuId) e).sighting = e.sighting :=
    moved_sighting fun hshown => by simp [stowedBox, hshown]
  rw [hhidden.stowMenu_eq_map, List.filter_map]
  have hfilter : ((fun e : Element => !e.needsBackend || app.backendAvailable) ∘
      moved (stowedBox app.menuId)) = fun e => !e.needsBackend || app.backendAvailable := rfl
  rw [hfilter, select?_redrawn (f := moved (stowedBox app.menuId)) fun _ => rfl, Option.map_map]
  congr 1
  funext found
  simp [hsighting]

theorem Twins.queryReply_alike (htwins : Twins app stowed s t) (locator : Locator) :
    (queryReply app s locator).Alike True (fun _ s' t' => s' = s ∧ t' = t)
      (queryReply app t locator) := by
  have hsame : (select? (s.present app) locator.selector).map (List.map Element.sighting) =
      (select? (t.present app) locator.selector).map (List.map Element.sighting) := by
    obtain hequal | ⟨hleft, hright⟩ := htwins.menu
    · rw [PageState.present, PageState.present, hequal]
    · rw [PageState.present, PageState.present, ← hleft.sightings_stowMenu,
        ← hright.sightings_stowMenu, htwins.left.elements, htwins.right.elements]
  rw [queryReply, queryReply, htwins.left.replacements, htwins.right.replacements,
    htwins.left.rendered, htwins.right.rendered]
  by_cases hfailing : app.failing = some locator.selector
  · rw [if_pos hfailing, if_pos hfailing]
    exact .answered ⟨rfl, rfl⟩
  · rw [if_neg hfailing, if_neg hfailing]
    simp only [Nat.lt_irrefl, if_false, Bool.not_true, Bool.false_eq_true]
    generalize select? (s.present app) locator.selector = found at hsame ⊢
    generalize select? (t.present app) locator.selector = found' at hsame ⊢
    cases found with
    | none =>
        cases found' with
        | none => exact .stuck _ trivial
        | some _ => cases hsame
    | some found =>
        cases found' with
        | none => cases hsame
        | some found' =>
            simp only [Option.map_some, Option.some.injEq] at hsame
            simp only [hsame]
            exact .answered ⟨rfl, rfl⟩

/-! ## Clicks -/

theorem Loaded.click (hloaded : Loaded s) (p : Point) (button : Button) :
    Loaded (s.click app p button) := by
  obtain ⟨elements, history, hclick⟩ := s.click_frame app button (p := p)
  rw [hclick]
  exact ⟨hloaded.isOpen, hloaded.rendered, hloaded.replacements⟩

/-- A click that changes nothing but the menu leaves what is shown beside it. -/
theorem Showing.click (hshowing : Showing app stowed s) {p : Point} {button : Button}
    (helements : stowMenu app.menuId (s.click app p button).elements = stowed) :
    Showing app stowed (s.click app p button) :=
  ⟨hshowing.toLoaded.click p button, helements⟩

theorem stowMenu_secondaryClick (p : Point) (elements : List Element) :
    stowMenu app.menuId (secondaryClick app p elements) = stowMenu app.menuId elements := by
  rw [secondaryClick]
  split
  · exact stowMenu_closeMenu
  · split
    · rfl
    · split
      · exact stowMenu_openMenu
      · exact stowMenu_closeMenu

theorem Showing.rightClick (hshowing : Showing app stowed s) (p : Point) :
    Showing app stowed (s.click app p .secondary) := by
  apply hshowing.click
  rw [PageState.secondaryClick_elements hshowing.rendered, stowMenu_secondaryClick,
    hshowing.elements]

/-- With the menu hidden, a right-click opens it at the same point on both pages or leaves
it hidden. -/
theorem secondaryClick_twins (p : Point) {elements elements' : List Element}
    (hhidden : MenuHidden app.menuId elements) (hhidden' : MenuHidden app.menuId elements')
    (hstowed : stowMenu app.menuId elements = stowMenu app.menuId elements') :
    secondaryClick app p elements = secondaryClick app p elements' ∨
      MenuHidden app.menuId (secondaryClick app p elements) ∧
        MenuHidden app.menuId (secondaryClick app p elements') := by
  have hmet : topmost? elements p = topmost? elements' p := by
    calc
      topmost? elements p = topmost? (stowMenu app.menuId elements) p :=
        (hhidden.topmost?_stowMenu p).symm
      _ = topmost? (stowMenu app.menuId elements') p := by rw [hstowed]
      _ = topmost? elements' p := hhidden'.topmost?_stowMenu p
  have hopens : opensMenuAt elements p = opensMenuAt elements' p :=
    congrArg (Option.any Element.opensMenu) hmet
  rw [secondaryClick_of_hidden hhidden, secondaryClick_of_hidden hhidden', hopens]
  split
  · left
    rw [← openMenu_stowMenu, hstowed, openMenu_stowMenu]
  · exact .inr ⟨menuHidden_closeMenu, menuHidden_closeMenu⟩

theorem Twins.rightClick (htwins : Twins app stowed s t) (p : Point) :
    Twins app stowed (s.click app p .secondary) (t.click app p .secondary) := by
  refine ⟨htwins.left.rightClick p, htwins.right.rightClick p, ?_⟩
  rw [PageState.secondaryClick_elements htwins.left.rendered,
    PageState.secondaryClick_elements htwins.right.rendered]
  obtain hequal | ⟨hhidden, hhidden'⟩ := htwins.menu
  · exact .inl (by rw [hequal])
  · refine secondaryClick_twins p hhidden hhidden' ?_
    rw [htwins.left.elements, htwins.right.elements]

/-- Where nothing new is revealed, a click closes the menu and does nothing else, whether
it meets the menu, an element beneath or nothing. -/
theorem primaryClick_closes (hsticky : app.stickyMenu = false) {elements : List Element}
    {p : Point} (hnothing : NothingNew (stowMenu app.menuId elements) p) :
    (primaryClick app p elements).1 = closeMenu app.menuId elements := by
  simp only [primaryClick, hsticky, Bool.false_eq_true, if_false]
  cases htopmost : topmost? elements p with
  | none => rfl
  | some target =>
      by_cases hmenu : target.id = app.menuId
      · simp only [hmenu, if_true]
      · simp only [hmenu, if_false]
        have hbeside : ∀ other, topmost? elements p = some other → other.id ≠ app.menuId := by
          intro other hother
          cases htopmost.symm.trans hother
          exact hmenu
        have hbeneath : topmost? (stowMenu app.menuId elements) p = some target := by
          rw [topmost?_stowMenu hbeside, htopmost]
        apply reveal_eq_self
        intro id hid
        rw [← menuHidden_closeMenu.showFirst?_stowMenu, stowMenu_closeMenu]
        exact hnothing target hbeneath id (List.mem_reverse.mp hid)

theorem Showing.dismissal (hsticky : app.stickyMenu = false)
    (hnothing : NothingNew stowed dismissAt) (hshowing : Showing app stowed s) :
    Quiet app stowed (s.click app dismissAt .primary) := by
  have hcloses : (s.click app dismissAt .primary).elements = closeMenu app.menuId s.elements := by
    rw [PageState.primaryClick_elements hshowing.rendered]
    apply primaryClick_closes hsticky
    rw [hshowing.elements]
    exact hnothing
  constructor
  · apply hshowing.click
    rw [hcloses, stowMenu_closeMenu, hshowing.elements]
  · rw [hcloses]
    exact menuHidden_closeMenu

/-! ## Probes -/

theorem Showing.twins (hshowing : Showing app stowed s) : Twins app stowed s s :=
  ⟨hshowing, hshowing, .inl rfl⟩

theorem Quiet.twins (hquiet : Quiet app stowed s) (hquiet' : Quiet app stowed t) :
    Twins app stowed s t :=
  ⟨hquiet.toShowing, hquiet'.toShowing, .inr ⟨hquiet.menu, hquiet'.menu⟩⟩

/-- The calls of a probe do not tell twins apart, and leave them twins. -/
theorem page_twins (hsticky : app.stickyMenu = false) (hnothing : NothingNew stowed dismissAt) :
    Page.Lockstep True (Call.probesAt dismissAt) (fun m n => Twins app stowed m.page n.page)
      (page app) (page app) where
  sleep := fun _ _ _ htwins => htwins
  reply := by
    intro m n call hcall htwins
    simp only [page, htwins.left.isOpen, htwins.right.isOpen, Bool.false_eq_true, if_false]
    cases call with
    | query locator =>
        have halike := htwins.queryReply_alike locator
        rw [openReply, openReply]
        generalize queryReply app m.page locator = x at halike ⊢
        generalize queryReply app n.page locator = y at halike ⊢
        cases halike with
        | answered hsame =>
            obtain ⟨rfl, rfl⟩ := hsame
            exact .answered htwins
        | pending hhangs => exact .pending hhangs
        | stuck latency hhangs => exact .stuck latency hhangs
    | click p button =>
        cases button with
        | secondary => exact .answered (htwins.rightClick p)
        | primary =>
            obtain rfl : p = dismissAt := hcall
            have hleft := htwins.left.dismissal hsticky hnothing
            have hright := htwins.right.dismissal hsticky hnothing
            exact .answered (hleft.twins hright)
    | _ => exact absurd hcall not_false
  abandon := fun _ _ _ _ _ htwins => htwins

variable {probe : RegionProbe} {handling : MenuHandling} {before after : Moment PageState}

/-- A query leaves the page as it is. -/
theorem Showing.query_eq_some {locator : Locator}
    {outcome : Except Failure (List Sighting)} (hshowing : Showing app stowed before.page)
    (hended : Run.ask (page app) (.query locator) before = some (outcome, after)) :
    after.page = before.page := by
  have halike := hshowing.twins.queryReply_alike locator
  simp only [Run.ask, page, hshowing.isOpen, Bool.false_eq_true, if_false, openReply] at hended
  generalize queryReply app before.page locator = reply at halike hended
  cases halike with
  | pending => cases hended
  | stuck => cases hended
  | answered hsame =>
      cases hended
      exact hsame.1

/-- Whatever came of the examination, in the end the menu is hidden. -/
theorem check_quiet (hsticky : app.stickyMenu = false)
    (hnothing : NothingNew stowed handling.dismissAt) (hshowing : Showing app stowed before.page)
    {outcome : Except Failure Outcome}
    (hended : probe.check (page app) handling before = some (outcome, after)) :
    Quiet app stowed after.page := by
  obtain ⟨examined, examination, dismissed, released, hexamined, hdismissed, hconcluded⟩ :=
    RegionProbe.check_cases hended
  have hpages := page_twins hsticky hnothing
  have hexamination : Showing app stowed examination.page :=
    ((hpages.examine (fun _ => trivial) (fun _ => trivial) probe handling).keeps
      hshowing.twins hexamined).left
  obtain ⟨clicked, hclicked, hafter⟩ := RegionProbe.dismiss_cases hdismissed
  have hreleased : Quiet app stowed released.page := by
    have hdismissal := hexamination.dismissal hsticky hnothing
    simp only [Run.ask, page, hexamination.isOpen, Bool.false_eq_true, if_false, openReply,
      Option.some.injEq, Prod.mk.injEq] at hclicked
    obtain ⟨rfl, rfl⟩ := hclicked
    rw [hafter]
    exact hdismissal
  -- The last look is a query, which leaves the page as the dismissal left it.
  have hlook {locator : Locator} {found : Except Failure (List Sighting)} {seen : Moment PageState}
      (hasked : Run.ask (page app) (.query locator) released = some (found, seen)) :
      Quiet app stowed seen.page := by
    rw [hreleased.query_eq_some hasked]
    exact hreleased
  cases hconcluded with
  | examination => exact hreleased
  | dismissal => exact hreleased
  | blind hblind => exact hlook hblind
  | survived hsees =>
      obtain ⟨_, hasked, _⟩ := hsees
      exact hlook hasked
  | gone hsees =>
      obtain ⟨_, hasked, _⟩ := hsees
      exact hlook hasked

theorem check_alike (hsticky : app.stickyMenu = false)
    (hnothing : NothingNew stowed handling.dismissAt) (probe : RegionProbe) :
    Run.Lockstep True (fun m n => Quiet app stowed m.page ∧ Quiet app stowed n.page)
      (probe.check (page app) handling) (probe.check (page app) handling) := by
  rintro m n ⟨hquiet, hquiet'⟩
  have hrun := (page_twins hsticky hnothing).check (fun _ => trivial) (fun _ => trivial) probe
    handling rfl
  apply (hrun m n (hquiet.twins hquiet')).imp
  intro outcome s t hleft hright _
  exact ⟨check_quiet hsticky hnothing hquiet.toShowing hleft,
    check_quiet hsticky hnothing hquiet'.toShowing hright⟩

def shownFlags (elements : List Element) : List (String × Bool) :=
  elements.map fun e => (e.id, e.shown)

theorem MenuHidden.shownFlags_stowMenu {menuId : String} {elements : List Element}
    (hhidden : MenuHidden menuId elements) :
    shownFlags (stowMenu menuId elements) = shownFlags elements := by
  rw [hhidden.stowMenu_eq_map, shownFlags, List.map_map]
  rfl

theorem Quiet.shownFlags_eq (hquiet : Quiet app stowed s) (hquiet' : Quiet app stowed t) :
    shownFlags t.elements = shownFlags s.elements := by
  rw [← hquiet'.menu.shownFlags_stowMenu, ← hquiet.menu.shownFlags_stowMenu, hquiet'.elements,
    hquiet.elements]

theorem Quiet.query_eq (hsticky : app.stickyMenu = false)
    (hnothing : NothingNew stowed dismissAt) (hbefore : Quiet app stowed before.page)
    (hafter : Quiet app stowed after.page) (locator : Locator) :
    (Run.ask (page app) (.query locator) after).map (·.1) =
      (Run.ask (page app) (.query locator) before).map (·.1) := by
  have hquery : Call.probesAt dismissAt (.query locator) := trivial
  have halike := (page_twins hsticky hnothing).ask hquery after before (hafter.twins hbefore)
  generalize Run.ask (page app) (.query locator) after = x at halike ⊢
  generalize Run.ask (page app) (.query locator) before = y at halike ⊢
  cases halike with
  | endless => rfl
  | ended => rfl

/-- Take a model page at rest whose menu goes with the click that dismisses it.  A probe
leaves shown what was shown, and the page at rest, so that every query is answered as it
was before.  Probes that are made one after the other come each to the outcome or the
failure that it comes to alone, in whatever order they are made. -/
theorem probes_leave_page (app : App) (hsticky : app.stickyMenu = false)
    (handling : MenuHandling) (before : Moment PageState)
    (hresting : Resting app handling.dismissAt before.page) :
    (∀ (probe : RegionProbe) (outcome : Except Failure Outcome) (after : Moment PageState),
      probe.check (page app) handling before = some (outcome, after) →
      shownFlags after.page.elements = shownFlags before.page.elements ∧
        Resting app handling.dismissAt after.page ∧
        ∀ locator, (Run.ask (page app) (.query locator) after).map (·.1) =
          (Run.ask (page app) (.query locator) before).map (·.1)) ∧
    (∀ (probes : List RegionProbe) (outcome : Except Failure (List (Except Failure Outcome)))
      (after : Moment PageState),
      (probes.mapM fun probe => Run.attempt (probe.check (page app) handling)) before =
        some (outcome, after) →
      ∃ verdict : RegionProbe → Except Failure Outcome, outcome = .ok (probes.map verdict) ∧
        (∀ probe ∈ probes, ∃ alone,
          probe.check (page app) handling before = some (verdict probe, alone)) ∧
        ∀ probes' : List RegionProbe, probes'.Perm probes → ∃ after',
          (probes'.mapM fun probe => Run.attempt (probe.check (page app) handling)) before =
            some (.ok (probes'.map verdict), after')) := by
  have hnothing := hresting.nothingNew
  have hbefore := hresting.quiet
  constructor
  · intro probe outcome after hended
    have hafter := check_quiet hsticky hnothing hbefore.toShowing hended
    exact ⟨hbefore.shownFlags_eq hafter, hafter.resting hnothing,
      Quiet.query_eq hsticky hnothing hbefore hafter⟩
  · intro probes outcome after hended
    obtain ⟨verdict, houtcome, halone, hperm⟩ := Run.mapM_attempt_perm
      (fun probe _ => check_alike hsticky hnothing probe) hbefore hended
    refine ⟨verdict, houtcome, ?_, ?_⟩
    · intro probe hprobe
      obtain ⟨alone, hcheck, _⟩ := halone probe hprobe before hbefore
      exact ⟨alone, hcheck⟩
    · intro probes' hpermuted
      obtain ⟨after', hprobes, _⟩ := hperm probes' hpermuted before hbefore
      exact ⟨after', hprobes⟩

def desktopPage : PageState := { elements := desktop.elements, rendered := true }

/-- A probe of the background beside the icons. -/
def besideProbe : RegionProbe := ⟨"beside the icons", .point ⟨480, 480⟩, true⟩

/-- The menu is dismissed where it opens, so that the click chooses one of its items. -/
def coveredMenu : MenuHandling := ⟨.byText "Change Wallpaper", ⟨510, 510⟩, 1000⟩

theorem desktopPage_resting : Resting desktop coveredMenu.dismissAt desktopPage := by
  have hmenu : MenuHidden desktop.menuId desktopPage.elements := by
    rw [MenuHidden]
    decide +kernel
  have hbackground :
      (topmost? desktopPage.elements coveredMenu.dismissAt).map (·.reveals) = some [] := by
    decide +kernel
  refine ⟨⟨rfl, rfl, rfl⟩, hmenu, ?_⟩
  intro target htarget id hid
  rw [htarget, Option.map_some, Option.some.injEq] at hbackground
  rw [hbackground] at hid
  cases hid

/-- On the desktop a probe of the background leaves shown what was shown, and two of them
may be made in either order. -/
theorem desktopPage_probes_swap :
    ∃ verdict : RegionProbe → Except Failure Outcome,
      (∃ after, backgroundProbe.check (page desktop) coveredMenu ⟨desktopPage, 0⟩ =
          some (verdict backgroundProbe, after) ∧
        shownFlags after.page.elements = shownFlags desktopPage.elements) ∧
      (∃ after, ([backgroundProbe, besideProbe].mapM fun probe =>
        Run.attempt (probe.check (page desktop) coveredMenu)) ⟨desktopPage, 0⟩ =
          some (.ok [verdict backgroundProbe, verdict besideProbe], after)) ∧
      ∃ after, ([besideProbe, backgroundProbe].mapM fun probe =>
        Run.attempt (probe.check (page desktop) coveredMenu)) ⟨desktopPage, 0⟩ =
          some (.ok [verdict besideProbe, verdict backgroundProbe], after) := by
  have hends : (([backgroundProbe, besideProbe].mapM fun probe =>
      Run.attempt (probe.check (page desktop) coveredMenu)) ⟨desktopPage, 0⟩).isSome := by
    decide +kernel
  obtain ⟨⟨outcome, after⟩, hended⟩ := Option.isSome_iff_exists.mp hends
  obtain ⟨hleaves, hprobes⟩ :=
    probes_leave_page desktop rfl coveredMenu ⟨desktopPage, 0⟩ desktopPage_resting
  obtain ⟨verdict, rfl, halone, hperm⟩ := hprobes _ _ _ hended
  obtain ⟨alone, hcheck⟩ := halone backgroundProbe List.mem_cons_self
  obtain ⟨hflags, _⟩ := hleaves _ _ _ hcheck
  exact ⟨verdict, ⟨alone, hcheck, hflags⟩, ⟨after, hended⟩, hperm _ (.swap _ _ _)⟩

end Model

end DesktopTrial
