import DesktopTrial.Proofs.Page.Transcript
import DesktopTrial.Proofs.Region.Course

/-!
# The menu is dismissed on every path

Whatever a page answers and wherever it fails, a region probe clicks once where the
menu is dismissed, and that after all it does to examine the region.  It right-clicks
at most once, and only a target that was found while no menu was seen.  The first
failing call decides how the probe fails, and a probe without failing calls passes just
when everything was seen as expected.
-/

namespace DesktopTrial

variable {σ : Type}

def Call.isClick : Call → Bool
  | .click _ _ => true
  | _ => false

/-- None of the calls is a click. -/
def Clickless (made : List Exchange) : Prop :=
  ∀ exchange ∈ made, exchange.call.isClick = false

theorem Clickless.nil : Clickless [] := List.forall_mem_nil _

theorem Clickless.append {made rest : List Exchange} (hmade : Clickless made)
    (hrest : Clickless rest) : Clickless (made ++ rest) :=
  List.forall_mem_append.mpr ⟨hmade, hrest⟩

theorem Clickless.query (locator : Locator) (answer : Option (Except Failure (List Sighting))) :
    Clickless [⟨.query locator, answer⟩] := List.forall_mem_singleton.mpr rfl

namespace RegionProbe

/-- The calls of an examination: no click, or a single right-click of the target, which
was found once the menu had been looked for and no match of it was visible. -/
inductive Probing (page : Page σ) (probe : RegionProbe) (handling : MenuHandling)
    (before : Moment (Transcribed σ)) : List Exchange → Prop where
  | clickless {made : List Exchange} : Clickless made → Probing page probe handling before made
  | clicked {front back : List Exchange} {p : Point} {answer : Except Failure Unit}
      {looked found : Moment (Transcribed σ)} :
      Sees page.transcribed handling.menu before false looked →
      Finds page.transcribed probe.target looked p found →
      found.transcript = before.transcript ++ front → Clickless (front ++ back) →
      Probing page probe handling before (front ++ ⟨.click p .secondary, some answer⟩ :: back)

/-- Everything was seen as expected: no menu before the right-click of the target, the
menu afterwards just when it has to open, and no menu once it was dismissed.  The page
settles after each click. -/
inductive Passes (page : Page σ) (probe : RegionProbe) (handling : MenuHandling)
    (before after : Moment σ) : Prop where
  | intro {p : Point} {looked found clicked seen dismissed : Moment σ} :
      Sees page handling.menu before false looked →
      Finds page probe.target looked p found →
      Run.ask page (.click p .secondary) found = some (.ok (), clicked) →
      Sees page handling.menu (clicked.later handling.settle clicked.page) probe.opensMenu
        seen →
      Run.ask page (.click handling.dismissAt .primary) seen = some (.ok (), dismissed) →
      Sees page handling.menu (dismissed.later handling.settle dismissed.page) false after →
      Passes page probe handling before after

section Transcript

variable {page : Page σ} {probe : RegionProbe} {handling : MenuHandling}
  {before after : Moment (Transcribed σ)}

theorem Sees.wrote {menu : Locator} {shown : Bool}
    (hsees : Sees page.transcribed menu before shown after) :
    ∃ found, Wrote [⟨.query menu, some (.ok found)⟩] before after
      (.ok shown : Except Failure Bool) := by
  obtain ⟨found, hasked, -⟩ := hsees
  exact ⟨found, (Wrote.of_ask hasked).congr rfl⟩

theorem pointOf_wrote {target : ProbeTarget} {outcome : Except Failure (Except String Point)}
    (hended : pointOf page.transcribed target before = some (outcome, after)) :
    ∃ made, Wrote made before after outcome ∧ Clickless made := by
  cases target with
  | point p =>
      cases hended
      exact ⟨[], .nothing before _, .nil⟩
  | locator locator =>
      obtain ⟨failure, _, hfailed, hoverall⟩ | ⟨found, _, hasked, hrest⟩ :=
        Run.bind_eq_some hended
      · cases hoverall
        exact ⟨_, (Wrote.of_ask hfailed).congr rfl, .query _ _⟩
      · cases hrest
        exact ⟨_, (Wrote.of_ask hasked).congr rfl, .query _ _⟩

theorem Finds.wrote {target : ProbeTarget} {p : Point}
    (hfinds : Finds page.transcribed target before p after) :
    ∃ made, Wrote made before after (.ok p : Except Failure Point) ∧ Clickless made := by
  obtain ⟨made, hwrote, hclickless⟩ := pointOf_wrote (pointOf_eq_ok_iff.mpr hfinds)
  exact ⟨made, hwrote.congr rfl, hclickless⟩

theorem clickAndLook_wrote {p : Point} {outcome : Except Failure Outcome}
    (hended : probe.clickAndLook page.transcribed handling p before = some (outcome, after)) :
    ∃ (answer : Except Failure Unit) (back : List Exchange),
      Wrote (⟨.click p .secondary, some answer⟩ :: back) before after outcome ∧
      Clickless back := by
  obtain ⟨failure, hfailed, rfl⟩ |
    ⟨clicked, hclicked, ⟨failure, hblind, rfl⟩ | ⟨shown, detail, hsees, rfl⟩⟩ :=
    clickAndLook_cases hended
  · exact ⟨_, [], (Wrote.of_ask hfailed).congr rfl, .nil⟩
  · have hfirst := (Wrote.of_ask hclicked).pause handling.settle
    have hrest := Wrote.of_ask hblind
    exact ⟨_, _, (hfirst.trans hrest).congr rfl, .query _ _⟩
  · have hfirst := (Wrote.of_ask hclicked).pause handling.settle
    obtain ⟨found, hrest⟩ := hsees.wrote
    exact ⟨_, _, (hfirst.trans hrest).congr rfl, .query _ _⟩

theorem examine_wrote {outcome : Except Failure Outcome}
    (hended : probe.examine page.transcribed handling before = some (outcome, after)) :
    ∃ made, Wrote made before after outcome ∧ Probing page probe handling before made := by
  cases examine_cases hended with
  | blind hblind =>
      exact ⟨_, (Wrote.of_ask hblind).congr rfl, .clickless (.query _ _)⟩
  | «open» hsees =>
      obtain ⟨found, hwrote⟩ := hsees.wrote
      exact ⟨_, hwrote.congr rfl, .clickless (.query _ _)⟩
  | unlocated hsees hlocated =>
      obtain ⟨found, hlook⟩ := hsees.wrote
      obtain ⟨made, hwrote, hclickless⟩ := pointOf_wrote hlocated
      exact ⟨_, (hlook.trans hwrote).congr rfl, .clickless ((Clickless.query _ _).append hclickless)⟩
  | missing hsees hlocated =>
      obtain ⟨found, hlook⟩ := hsees.wrote
      obtain ⟨made, hwrote, hclickless⟩ := pointOf_wrote hlocated
      exact ⟨_, (hlook.trans hwrote).congr rfl, .clickless ((Clickless.query _ _).append hclickless)⟩
  | clicked hsees hfinds hclicked =>
      obtain ⟨seen, hlook⟩ := hsees.wrote
      obtain ⟨made, hfound, hclickless⟩ := hfinds.wrote
      obtain ⟨answer, back, hrest, hback⟩ := clickAndLook_wrote hclicked
      have hfront := hlook.trans hfound
      exact ⟨_, hfront.trans hrest, .clicked hsees hfinds hfront.transcript
        (((Clickless.query _ _).append hclickless).append hback)⟩

theorem dismiss_wrote {outcome : Except Failure Unit}
    (hended : dismiss page.transcribed handling before = some (outcome, after)) :
    Wrote [⟨.click handling.dismissAt .primary, some outcome⟩] before after outcome := by
  obtain ⟨clicked, hclicked, rfl⟩ := dismiss_cases hended
  have hwrote := Wrote.of_ask hclicked
  split
  · exact hwrote.pause handling.settle
  · exact hwrote

/-- The failure of a probe is that of its examination, else that of the dismissal, else
that of the last look. -/
theorem Concluded.wrote {examined outcome : Except Failure Outcome}
    {dismissed : Except Failure Unit}
    (hconcluded : Concluded page.transcribed handling before examined dismissed outcome after) :
    ∃ look, after.transcript = before.transcript ++ look ∧ Clickless look ∧
      failed? outcome =
        (failed? examined).or ((failed? dismissed).or (firstFailure? look)) := by
  cases hconcluded with
  | examination => exact ⟨[], by simp, .nil, rfl⟩
  | dismissal => exact ⟨[], by simp, .nil, rfl⟩
  | blind hblind =>
      have hwrote := Wrote.of_ask hblind
      exact ⟨_, hwrote.transcript, .query _ _, rfl⟩
  | survived hsees =>
      obtain ⟨found, hwrote⟩ := hsees.wrote
      exact ⟨_, hwrote.transcript, .query _ _, rfl⟩
  | gone hsees =>
      obtain ⟨found, hwrote⟩ := hsees.wrote
      exact ⟨_, hwrote.transcript, .query _ _, rfl⟩

end Transcript

section Verdict

variable {page : Page σ} {probe : RegionProbe} {handling : MenuHandling}
  {before after : Moment σ}

/-- A probe for which everything is as expected passes. -/
theorem Passes.check_eq (hpasses : Passes page probe handling before after) :
    ∃ detail, probe.check page handling before = some (.ok ⟨true, detail⟩, after) := by
  cases hpasses with
  | intro hlooked hfound hclicked hseen hdismissed hgone =>
      have hexamined := examine_eq hlooked hfound
      obtain ⟨detail, hcompared⟩ := clickAndLook_eq hclicked hseen
      rw [hcompared, beq_self_eq_true] at hexamined
      exact ⟨detail, RegionProbe.check_eq hexamined (dismiss_eq hdismissed) hgone⟩

/-- A probe that passes found everything as expected. -/
theorem passes_of_passed {detail : String}
    (hended : probe.check page handling before = some (.ok ⟨true, detail⟩, after)) :
    Passes page probe handling before after := by
  obtain ⟨examined, examination, dismissed, released, hexamined, hdismissed, hconcluded⟩ :=
    check_cases hended
  generalize houtcome : (Except.ok ⟨true, detail⟩ : Except Failure Outcome) = outcome
    at hconcluded
  cases hconcluded with
  | examination => cases houtcome
  | dismissal => cases houtcome
  | blind => cases houtcome
  | survived => cases houtcome
  | gone hgone =>
      cases houtcome
      obtain ⟨gone, hclickedAway, rfl⟩ := dismiss_cases hdismissed
      generalize houtcome : (Except.ok ⟨true, detail⟩ : Except Failure Outcome) = outcome
        at hexamined
      cases examine_cases hexamined with
      | blind => cases houtcome
      | «open» => cases houtcome
      | unlocated => cases houtcome
      | missing => cases houtcome
      | clicked hlooked hfound hcompared =>
          obtain ⟨_, _, rfl⟩ | ⟨clicked, hclicked, ⟨_, _, rfl⟩ | ⟨shown, _, hseen, rfl⟩⟩ :=
            clickAndLook_cases hcompared
          · cases houtcome
          · cases houtcome
          · have hexpected : shown = probe.opensMenu := by
              simp only [Except.ok.injEq, Outcome.mk.injEq] at houtcome
              exact eq_of_beq houtcome.1.symm
            rw [hexpected] at hseen
            exact ⟨hlooked, hfound, hclicked, hseen, hclickedAway, hgone⟩

theorem passed_iff {outcome : Outcome}
    (hended : probe.check page handling before = some (.ok outcome, after)) :
    outcome.passed = true ↔ Passes page probe handling before after := by
  obtain ⟨passed, detail⟩ := outcome
  constructor
  · rintro rfl
    exact passes_of_passed hended
  · intro hpasses
    obtain ⟨_, hpassed⟩ := hpasses.check_eq
    cases hended.symm.trans hpassed
    rfl

end Verdict

/-- A transcript changes nothing.  What a probe makes of a page, whatever it answers, is
an examination, one click where the menu is dismissed, and at most a last look.  The
probe fails with the failure of the first failing call; without one it gives an outcome,
which is that it passed just when everything was as expected.  On a page that answers a
probe ends. -/
theorem dismissed_on_every_path (page : Page σ) (probe : RegionProbe)
    (handling : MenuHandling) :
    (∀ before : Moment (Transcribed σ),
      probe.check page handling before.untranscribed =
        (probe.check page.transcribed handling before).map fun ended =>
          (ended.1, ended.2.untranscribed)) ∧
    (∀ (before after : Moment (Transcribed σ)) (outcome : Except Failure Outcome),
      probe.check page.transcribed handling before = some (outcome, after) →
      ∃ (examined : Except Failure Outcome) (examination : Moment (Transcribed σ))
        (dismissed : Except Failure Unit) (probing look : List Exchange),
        probe.examine page.transcribed handling before = some (examined, examination) ∧
        examination.transcript = before.transcript ++ probing ∧
        after.transcript = before.transcript ++
          (probing ++ ⟨.click handling.dismissAt .primary, some dismissed⟩ :: look) ∧
        Probing page probe handling before probing ∧ Clickless look ∧
        firstFailure? (probing ++ ⟨.click handling.dismissAt .primary, some dismissed⟩ :: look) =
          failed? outcome ∧
        ∀ found, outcome = .ok found →
          (found.passed = true ↔ Passes page.transcribed probe handling before after)) ∧
    (page.Answers → ∀ before : Moment (Transcribed σ),
      ∃ outcome after, probe.check page.transcribed handling before = some (outcome, after)) := by
  refine ⟨?_, ?_, ?_⟩
  · exact (page.transcribed_lockstep.check (fun _ => trivial) (fun _ => trivial) probe handling
      trivial).forgets
  · intro before after outcome hended
    obtain ⟨examined, examination, dismissed, released, hexamined, hdismissed, hconcluded⟩ :=
      check_cases hended
    obtain ⟨probing, hwrote, hprobing⟩ := examine_wrote hexamined
    have hreleased := dismiss_wrote hdismissed
    obtain ⟨look, hlook, hclickless, hfailed⟩ := hconcluded.wrote
    refine ⟨examined, examination, dismissed, probing, look, hexamined, hwrote.transcript, ?_,
      hprobing, hclickless, ?_, ?_⟩
    · rw [hlook, hreleased.transcript, hwrote.transcript]
      simp
    · rw [firstFailure?_append, ← List.singleton_append, firstFailure?_append, hwrote.failure,
        hreleased.failure, hfailed]
    · rintro found rfl
      exact passed_iff hended
  · intro hanswers before
    exact (hanswers.transcribed.lockstep.check (fun _ => trivial) (fun _ => trivial) probe
      handling trivial).ends rfl

/-- A page whose menu opens with every right-click and goes with every other click. -/
def menuPage : Page Bool where
  reply shown call :=
    match call with
    | .query _ => .answered 5 (.ok [⟨shown, none, "Change Wallpaper"⟩]) shown
    | .click _ .secondary => .answered 1 (.ok ()) true
    | .click _ .primary => .answered 1 (.ok ()) false
    | _ => .answered 0 (.error (.driver "no such call")) shown
  abandon shown _ := shown

def backgroundProbe : RegionProbe := ⟨"background", .point ⟨500, 500⟩, true⟩

def wallpaperMenu : MenuHandling := ⟨.byText "Change Wallpaper", ⟨900, 300⟩, 1000⟩

/-- On such a page the probe passes.  On a page that fails every call it fails, and not
before the dismissal was tried. -/
theorem menuPage_dismissed :
    (∃ outcome after probing look,
      backgroundProbe.check menuPage.transcribed wallpaperMenu ⟨⟨false, []⟩, 0⟩ =
        some (.ok outcome, after) ∧
      after.transcript = [] ++ (probing ++ ⟨.click ⟨900, 300⟩ .primary, some (.ok ())⟩ :: look) ∧
      outcome.passed = true ∧
      Passes menuPage.transcribed backgroundProbe wallpaperMenu ⟨⟨false, []⟩, 0⟩ after) ∧
    (∃ failure after probing dismissed look,
      backgroundProbe.check (Harness.brokenPool.page ()).transcribed wallpaperMenu
        ⟨⟨(), []⟩, 0⟩ = some (.error failure, after) ∧
      after.transcript = [] ++ (probing ++ ⟨.click ⟨900, 300⟩ .primary, some dismissed⟩ :: look) ∧
      firstFailure? (probing ++ ⟨.click ⟨900, 300⟩ .primary, some dismissed⟩ :: look) =
        some failure) := by
  constructor
  · obtain ⟨detail, after, hended⟩ : ∃ detail after,
        backgroundProbe.check menuPage.transcribed wallpaperMenu ⟨⟨false, []⟩, 0⟩ =
          some (.ok ⟨true, detail⟩, after) := ⟨_, _, rfl⟩
    obtain ⟨_, _, dismissed, probing, look, _, _, htranscript, _, _, hfirst, hpassed⟩ :=
      (dismissed_on_every_path menuPage backgroundProbe wallpaperMenu).2.1 _ _ _ hended
    cases dismissed with
    | error failure => simp [firstFailure?, Exchange.failure?, failed?] at hfirst
    | ok value =>
        exact ⟨_, after, probing, look, hended, htranscript, rfl, (hpassed _ rfl).mp rfl⟩
  · obtain ⟨failure, after, hended⟩ : ∃ failure after,
        backgroundProbe.check (Harness.brokenPool.page ()).transcribed wallpaperMenu
          ⟨⟨(), []⟩, 0⟩ = some (.error failure, after) := ⟨_, _, rfl⟩
    obtain ⟨_, _, dismissed, probing, look, _, _, htranscript, _, _, hfirst, _⟩ :=
      (dismissed_on_every_path (Harness.brokenPool.page ()) backgroundProbe
        wallpaperMenu).2.1 _ _ _ hended
    exact ⟨failure, after, probing, dismissed, look, hended, htranscript, hfirst⟩

end RegionProbe

end DesktopTrial
