import DesktopTrial.Check.Region
import DesktopTrial.Proofs.Page.Lockstep
import DesktopTrial.Proofs.Readiness.Schedule

/-!
# The course of a region probe

A probe looks for the menu, finds its target, right-clicks it and looks again; then the
menu is dismissed, whatever came of that, and looked for once more.  An ended probe
took one of a few courses, and a probe that passes took the only one without a fault.
-/

namespace DesktopTrial.RegionProbe

variable {σ : Type}

/-- The menu is looked for, and some match is visible or none is. -/
def Sees (page : Page σ) (menu : Locator) (before : Moment σ) (shown : Bool)
    (after : Moment σ) : Prop :=
  ∃ found, Run.ask page (.query menu) before = some (.ok found, after) ∧
    found.any (·.visible) = shown

/-- The target stands for a point: a point for itself, and a locator for the center of
the box of the element that it resolves to, which has to be visible. -/
inductive Finds (page : Page σ) :
    ProbeTarget → Moment σ → Point → Moment σ → Prop where
  | point (p : Point) (moment : Moment σ) : Finds page (.point p) moment p moment
  | center {locator : Locator} {before after : Moment σ} {found : List Sighting} {box : Box} :
      Run.ask page (.query locator) before = some (.ok found, after) →
      Readiness.ShowsBox locator found box →
      Finds page (.locator locator) before box.center after

variable {page : Page σ} {probe : RegionProbe} {handling : MenuHandling}
  {before after : Moment σ}

theorem menuVisible_eq_ok_iff {menu : Locator} {shown : Bool} :
    menuVisible page menu before = some (.ok shown, after) ↔
      Sees page menu before shown after := by
  constructor
  · intro hended
    obtain ⟨found, _, hasked, hrest⟩ := Run.bind_eq_ok hended
    cases hrest
    exact ⟨found, hasked, rfl⟩
  · rintro ⟨found, hasked, rfl⟩
    rw [menuVisible, Run.bind_apply, hasked, Run.proceed_ok]
    rfl

theorem menuVisible_eq_error {menu : Locator} {failure : Failure}
    (hended : menuVisible page menu before = some (.error failure, after)) :
    Run.ask page (.query menu) before = some (.error failure, after) := by
  obtain ⟨_, _, hfailed, hoverall⟩ | ⟨_, _, _, himpossible⟩ := Run.bind_eq_some hended
  · cases hoverall
    exact hfailed
  · cases himpossible

/-- Whoever looks for the menu fails with the query, or goes on with what is seen. -/
theorem menuVisible_bind_eq_some {α : Type} {menu : Locator} {next : Bool → Run (Moment σ) α}
    {outcome : Except Failure α}
    (hended : (menuVisible page menu >>= next) before = some (outcome, after)) :
    (∃ failure, outcome = .error failure ∧
        Run.ask page (.query menu) before = some (.error failure, after)) ∨
      ∃ shown looked, Sees page menu before shown looked ∧
        next shown looked = some (outcome, after) := by
  obtain ⟨failure, _, hblind, hoverall⟩ | ⟨shown, looked, hlooked, hrest⟩ :=
    Run.bind_eq_some hended
  · cases hoverall
    exact .inl ⟨failure, rfl, menuVisible_eq_error hblind⟩
  · exact .inr ⟨shown, looked, menuVisible_eq_ok_iff.mp hlooked, hrest⟩

theorem centerOf_eq_ok_iff {locator : Locator} {found : List Sighting} {p : Point} :
    centerOf locator found = .ok p ↔
      ∃ box, Readiness.ShowsBox locator found box ∧ box.center = p := by
  rw [centerOf]
  cases hresolve : locator.resolve found with
  | error reason => simp [Readiness.ShowsBox, hresolve]
  | ok element =>
      cases hbox : element.box <;> by_cases hvisible : element.visible = true <;>
        simp [Readiness.ShowsBox, Sighting.visibleBox?, hresolve, hbox, hvisible]

theorem pointOf_eq_ok_iff {target : ProbeTarget} {p : Point} :
    pointOf page target before = some (.ok (.ok p), after) ↔
      Finds page target before p after := by
  constructor
  · intro hended
    cases target with
    | point q =>
        cases hended
        exact .point p before
    | locator locator =>
        obtain ⟨found, _, hasked, hrest⟩ := Run.bind_eq_ok hended
        simp only [Run.pure_apply, Option.some.injEq, Prod.mk.injEq, Except.ok.injEq] at hrest
        obtain ⟨hcenter, rfl⟩ := hrest
        obtain ⟨box, hshows, rfl⟩ := centerOf_eq_ok_iff.mp hcenter
        exact .center hasked hshows
  · intro hfinds
    cases hfinds with
    | point => rfl
    | center hasked hshows =>
        have hcenter := centerOf_eq_ok_iff.mpr ⟨_, hshows, rfl⟩
        rw [pointOf, Run.bind_apply, hasked, Run.proceed_ok, hcenter]
        rfl

/-! ## Courses -/

/-- How an examination went. -/
inductive Examined (page : Page σ) (probe : RegionProbe) (handling : MenuHandling)
    (before : Moment σ) : Except Failure Outcome → Moment σ → Prop where
  | blind {failure : Failure} {after : Moment σ} :
      Run.ask page (.query handling.menu) before = some (.error failure, after) →
      Examined page probe handling before (.error failure) after
  | open {after : Moment σ} :
      Sees page handling.menu before true after →
      Examined page probe handling before
        (.ok (.fail (probe.name ++ ": menu already open before click"))) after
  | unlocated {looked after : Moment σ} {failure : Failure} :
      Sees page handling.menu before false looked →
      pointOf page probe.target looked = some (.error failure, after) →
      Examined page probe handling before (.error failure) after
  | missing {looked after : Moment σ} {reason : String} :
      Sees page handling.menu before false looked →
      pointOf page probe.target looked = some (.ok (.error reason), after) →
      Examined page probe handling before
        (.ok (.fail (probe.name ++ ": target not found (" ++ reason ++ ")"))) after
  | clicked {looked found after : Moment σ} {p : Point} {outcome : Except Failure Outcome} :
      Sees page handling.menu before false looked →
      Finds page probe.target looked p found →
      clickAndLook page probe handling p found = some (outcome, after) →
      Examined page probe handling before outcome after

theorem examine_cases {outcome : Except Failure Outcome}
    (hended : probe.examine page handling before = some (outcome, after)) :
    Examined page probe handling before outcome after := by
  obtain ⟨failure, rfl, hblind⟩ | ⟨shown, looked, hsees, hrest⟩ := menuVisible_bind_eq_some hended
  · exact .blind hblind
  cases shown with
  | true =>
      cases hrest
      exact .open hsees
  | false =>
      obtain ⟨failure, _, hfailed, hoverall⟩ | ⟨located, found, hlocated, hrest⟩ :=
        Run.bind_eq_some hrest
      · cases hoverall
        exact .unlocated hsees hfailed
      · cases located with
        | error reason =>
            cases hrest
            exact .missing hsees hlocated
        | ok p => exact .clicked hsees (pointOf_eq_ok_iff.mp hlocated) hrest

/-- The ways of a right-click: it fails, nothing is seen afterwards, or the menu is
compared with what was expected once the page has settled. -/
theorem clickAndLook_cases {p : Point} {outcome : Except Failure Outcome}
    (hended : probe.clickAndLook page handling p before = some (outcome, after)) :
    (∃ failure, Run.ask page (.click p .secondary) before = some (.error failure, after) ∧
      outcome = .error failure) ∨
    ∃ clicked, Run.ask page (.click p .secondary) before = some (.ok (), clicked) ∧
      ((∃ failure,
        Run.ask page (.query handling.menu) (clicked.later handling.settle clicked.page) =
          some (.error failure, after) ∧ outcome = .error failure) ∨
      ∃ shown detail,
        Sees page handling.menu (clicked.later handling.settle clicked.page) shown after ∧
        outcome = .ok ⟨shown == probe.opensMenu, detail⟩) := by
  obtain ⟨failure, _, hfailed, hoverall⟩ | ⟨_, clicked, hclicked, hrest⟩ :=
    Run.bind_eq_some hended
  · cases hoverall
    exact .inl ⟨failure, hfailed, rfl⟩
  refine .inr ⟨clicked, hclicked, ?_⟩
  obtain ⟨_, _, hsettled, hrest⟩ := Run.bind_eq_some_of_ok (fun _ _ hsleep => by
    cases hsleep
    exact ⟨_, rfl⟩) hrest
  cases hsettled
  obtain ⟨failure, rfl, hblind⟩ | ⟨shown, _, hsees, hrest⟩ := menuVisible_bind_eq_some hrest
  · exact .inl ⟨failure, hblind, rfl⟩
  · cases hrest
    exact .inr ⟨shown, _, hsees, rfl⟩

/-- Dismissing is one click, after which the page may settle. -/
theorem dismiss_cases {outcome : Except Failure Unit}
    (hended : dismiss page handling before = some (outcome, after)) :
    ∃ clicked, Run.ask page (.click handling.dismissAt .primary) before =
        some (outcome, clicked) ∧
      after = if outcome.isOk then clicked.later handling.settle clicked.page else clicked := by
  obtain ⟨failure, clicked, hfailed, hoverall⟩ | ⟨_, clicked, hclicked, hrest⟩ :=
    Run.bind_eq_some hended
  · cases hoverall
    exact ⟨_, hfailed, rfl⟩
  · cases hrest
    exact ⟨_, hclicked, rfl⟩

/-- How a probe ended once it was examined and the dismissal was tried. -/
inductive Concluded (page : Page σ) (handling : MenuHandling) (released : Moment σ) :
    Except Failure Outcome → Except Failure Unit → Except Failure Outcome → Moment σ → Prop where
  | examination {failure : Failure} {dismissed : Except Failure Unit} :
      Concluded page handling released (.error failure) dismissed (.error failure) released
  | dismissal {outcome : Outcome} {failure : Failure} :
      Concluded page handling released (.ok outcome) (.error failure) (.error failure) released
  | blind {outcome : Outcome} {failure : Failure} {after : Moment σ} :
      Run.ask page (.query handling.menu) released = some (.error failure, after) →
      Concluded page handling released (.ok outcome) (.ok ()) (.error failure) after
  | survived {outcome : Outcome} {after : Moment σ} :
      Sees page handling.menu released true after →
      Concluded page handling released (.ok outcome) (.ok ())
        (.ok (.fail (outcome.detail ++ "; menu still open after dismiss click at " ++
          handling.dismissAt.text))) after
  | gone {outcome : Outcome} {after : Moment σ} :
      Sees page handling.menu released false after →
      Concluded page handling released (.ok outcome) (.ok ()) (.ok outcome) after

/-- A probe is examined, dismissed and concluded, in this order and on every path. -/
theorem check_cases {outcome : Except Failure Outcome}
    (hended : probe.check page handling before = some (outcome, after)) :
    ∃ examined examination dismissed released,
      probe.examine page handling before = some (examined, examination) ∧
      dismiss page handling examination = some (dismissed, released) ∧
      Concluded page handling released examined dismissed outcome after := by
  obtain ⟨examined, examination, hexamined, hrest⟩ := Run.attempt_bind_eq_some hended
  obtain ⟨dismissed, released, hdismissed, hrest⟩ := Run.attempt_bind_eq_some hrest
  refine ⟨examined, examination, dismissed, released, hexamined, hdismissed, ?_⟩
  rw [Run.ofExcept_bind_apply] at hrest
  cases examined with
  | error failure =>
      cases hrest
      exact .examination
  | ok found =>
      rw [Run.proceed_ok, Run.ofExcept_bind_apply] at hrest
      cases dismissed with
      | error failure =>
          cases hrest
          exact .dismissal
      | ok value =>
          rw [Run.proceed_ok] at hrest
          obtain ⟨failure, rfl, hblind⟩ | ⟨shown, _, hsees, hrest⟩ :=
            menuVisible_bind_eq_some hrest
          · exact .blind hblind
          cases shown with
          | true =>
              cases hrest
              exact .survived hsees
          | false =>
              cases hrest
              exact .gone hsees

/-! ## The course of a probe without failures -/

/-- The menu is compared with what was expected once the page has settled. -/
theorem clickAndLook_eq {p : Point} {clicked : Moment σ} {shown : Bool}
    (hclicked : Run.ask page (.click p .secondary) before = some (.ok (), clicked))
    (hsees : Sees page handling.menu (clicked.later handling.settle clicked.page) shown after) :
    ∃ detail, probe.clickAndLook page handling p before =
      some (.ok ⟨shown == probe.opensMenu, detail⟩, after) := by
  have hlook := menuVisible_eq_ok_iff.mpr hsees
  have hsettle : (Run.sleep handling.settle : Run (Moment σ) Unit) clicked =
      some (.ok (), clicked.later handling.settle clicked.page) := rfl
  rw [clickAndLook, Run.bind_apply, hclicked, Run.proceed_ok, Run.bind_apply, hsettle,
    Run.proceed_ok, Run.bind_apply, hlook, Run.proceed_ok]
  exact ⟨_, rfl⟩

theorem examine_eq {looked found : Moment σ} {p : Point}
    (hsees : Sees page handling.menu before false looked)
    (hfinds : Finds page probe.target looked p found) :
    probe.examine page handling before = probe.clickAndLook page handling p found := by
  have hlook := menuVisible_eq_ok_iff.mpr hsees
  have hlocate := pointOf_eq_ok_iff.mpr hfinds
  rw [examine, Run.bind_apply, hlook, Run.proceed_ok, if_neg Bool.false_ne_true, Run.bind_apply,
    hlocate, Run.proceed_ok]

theorem dismiss_eq {clicked : Moment σ}
    (hclicked : Run.ask page (.click handling.dismissAt .primary) before =
      some (.ok (), clicked)) :
    dismiss page handling before =
      some (.ok (), clicked.later handling.settle clicked.page) := by
  rw [dismiss, Run.bind_apply, hclicked, Run.proceed_ok]
  rfl

theorem check_eq {examination released : Moment σ} {outcome : Outcome}
    (hexamined : probe.examine page handling before = some (.ok outcome, examination))
    (hdismissed : dismiss page handling examination = some (.ok (), released))
    (hgone : Sees page handling.menu released false after) :
    probe.check page handling before = some (.ok outcome, after) := by
  have hlast := menuVisible_eq_ok_iff.mpr hgone
  rw [check, Run.bind_apply, Run.attempt, hexamined, Run.proceed_ok, Run.bind_apply, Run.attempt,
    hdismissed, Run.proceed_ok, Run.ofExcept_bind_apply, Run.proceed_ok,
    Run.ofExcept_bind_apply, Run.proceed_ok, Run.bind_apply, hlast, Run.proceed_ok]
  rfl

end DesktopTrial.RegionProbe
