import DesktopTrial.Catalog
import DesktopTrial.Proofs.Configuration.Validity
import DesktopTrial.Proofs.Model.Completion
import DesktopTrial.Proofs.Model.Independence
import DesktopTrial.Proofs.Model.Presentation
import DesktopTrial.Proofs.Model.Selection

/-!
# The centering scenario on the model desktop

The scenario opens the settings window of the model desktop and reports whether the window is
centered.  Whatever box the window is given, and however the configuration is scaled and timed,
the scenario comes to its end, and its verdict is what the geometry says of the box.
-/

namespace DesktopTrial

/-- A configuration for the standard application: it visits the default URL with the default
session, markers and browser. -/
structure Configuration.IsStandard (config : Configuration) : Prop where
  baseUrl : config.baseUrl = ({} : Configuration).baseUrl
  session : config.session = {}
  markers : config.markers = {}
  browser : config.browser = {}

/-- The steps of the centering scenario for the standard application. -/
theorem Configuration.IsStandard.windowCentering_steps {config : Configuration}
    (hstandard : config.IsStandard) :
    (Catalog.windowCentering config).steps =
      [.navigate "/desktop",
       .assertNotRedirected "session bypasses login",
       .awaitReady (.selectorPresent ".desktop-icon"),
       .click ⟨.cssWithText ".desktop-icon" "Settings", some .first⟩,
       .awaitReady (.selectorPresent ".desktop-window"),
       .settle,
       .checkpoint "window_centering",
       .assertCentered "Settings window centered"
        ⟨.cssWithText ".desktop-window" "Settings", some .first⟩] := by
  rw [Catalog.windowCentering, hstandard.markers]
  rfl

namespace Model

variable {b : Box} {shown : Bool}

/-! ## The desktop with its settings window in a box -/

def settingsWindow (b : Box) (shown : Bool) : Element where
  id := "window-settings"
  box := b
  css := [".desktop-window"]
  text := "Settings"
  shown := shown

/-- The elements of the desktop, in which the settings window has a box and is shown or not. -/
def withSettings (b : Box) (shown : Bool) : List Element :=
  desktopElements.take 13 ++ settingsWindow b shown :: desktopElements.drop 14

theorem withBox_obliging (b : Box) : (desktop.withBox "window-settings" b).Obliging :=
  ⟨rfl, rfl, rfl, rfl, rfl⟩

def settingsIcon : Element := icon "icon-settings" "Settings" 144 "window-settings"

theorem select?_icons (b : Box) : select? (withSettings b false) (.css ".desktop-icon") =
    some [icon "icon-activity" "Activity Monitor" 48 "window-activity", settingsIcon] := rfl

/-- The text of the settings picks its element out of two that match a CSS selector. -/
theorem select?_settings {present : List Element} {css : String} {other own : Element}
    (hcss : select? present (.css css) = some [other, own]) (hown : own.text = "Settings")
    (hother : textMatches other.text "Settings" false = false) :
    select? present (.cssWithText css "Settings") = some [own] := by
  have hmatches : textMatches own.text "Settings" false = true := by
    rw [hown]
    decide +kernel
  rw [select?_cssWithText hcss, List.filter_cons, List.filter_singleton, hother, hmatches]
  rfl

/-- Nothing that is shown covers the icon. -/
theorem topmost?_settingsIcon (b : Box) :
    topmost? (withSettings b false) settingsIcon.box.center = some settingsIcon := by
  have hicon : settingsIcon.box.contains settingsIcon.box.center = true := by decide +kernel
  have hdock : (⟨340, 740, 600, 56⟩ : Box).contains settingsIcon.box.center = false := by
    decide +kernel
  have hshown : settingsIcon.shown = true := rfl
  have hsame : icon "icon-settings" "Settings" 144 "window-settings" = settingsIcon := rfl
  simp only [topmost?, withSettings, desktopElements, activityText, activityTab, settingsWindow,
    hsame, List.take_succ_cons, List.take_zero, List.drop_succ_cons, List.drop_zero,
    List.reverse_cons, List.reverse_nil, List.nil_append, List.cons_append, List.find?_cons,
    Bool.false_and, Bool.true_and, hdock, hicon, hshown]

/-- A click on the icon shows the settings window. -/
theorem primaryClick_settingsIcon (b : Box) :
    (primaryClick (desktop.withBox "window-settings" b) settingsIcon.box.center
      (withSettings b false)).1 = withSettings b true := by
  have hbeside : settingsIcon.id ≠ "context-menu" := by decide
  have hclosed : closeMenu "context-menu" (withSettings b false) = withSettings b false := rfl
  have hshow : showFirst? "window-settings" (withSettings b false) =
    some ([], withSettings b true) := rfl
  calc
    (primaryClick (desktop.withBox "window-settings" b) settingsIcon.box.center
        (withSettings b false)).1 =
        reveal ["window-settings"] (closeMenu "context-menu" (withSettings b false)) :=
      primaryClick_of_topmost? (topmost?_settingsIcon b) hbeside
    _ = reveal [] (withSettings b true) := by
      rw [hclosed, reveal_some hshow, List.reverse_nil, List.nil_append]
    _ = withSettings b true := by rw [reveal]

theorem select?_windows (b : Box) :
    ∃ activity : Element, activity.text = "" ∧
      select? (withSettings b true) (.css ".desktop-window") =
        some [activity, settingsWindow b true] := ⟨_, rfl, rfl⟩

/-! ## The verdict -/

theorem settingsIcon_shows : Readiness.ShowsBox
    ⟨.cssWithText ".desktop-icon" "Settings", some .first⟩
    ([settingsIcon].map Element.sighting) settingsIcon.box :=
  ⟨settingsIcon.sighting, rfl, by decide +kernel, rfl⟩

/-- The check for a centered window that is shown passes when its box has area and is where it
is expected. -/
theorem centeredness_settingsWindow (b : Box) (expected : Centering) :
    (Check.centeredness ⟨.cssWithText ".desktop-window" "Settings", some .first⟩ expected
      ([settingsWindow b true].map Element.sighting)).passed =
        (b.hasArea && (expected.check b).passed) := by
  have hresolve : (⟨.cssWithText ".desktop-window" "Settings", some .first⟩ : Locator).resolve
      ([settingsWindow b true].map Element.sighting) = .ok (settingsWindow b true).sighting := rfl
  have hvisible : (settingsWindow b true).sighting.visibleBox? =
      if b.hasArea then some b else none := rfl
  rw [Check.centeredness, hresolve]
  simp only [hvisible]
  cases b.hasArea <;> rfl

/-! ## The scenario -/

variable {config : Configuration} {paths : List String}

/-- The session of the standard configuration is valid, and the application lets it in. -/
theorem standardSession : ∃ entries, (Seed.ofSettings {}).entries = .ok entries ∧
    entries.has desktop.tokenKey = true := by
  have hsession : (Seed.ofSettings {}).entries.toOption.any (·.has desktop.tokenKey) = true := by
    decide +kernel
  cases hentries : (Seed.ofSettings {}).entries with
  | error failure =>
      rw [hentries] at hsession
      cases hsession
  | ok entries =>
      rw [hentries] at hsession
      exact ⟨entries, rfl, hsession⟩

/-- On a fresh page of the desktop the scenario comes to its end. -/
theorem windowCentering_ensures (b : Box) (hstandard : config.IsStandard)
    (hready : 0 < config.timeouts.patience.budget)
    (hpath : config.screenshotPath "window_centering" ∈ paths) :
    Run.Ensures
      (Stage.Meets (fun moment => moment.page = .fresh (desktop.withBox "window-settings" b))
        paths [] [])
      ((Catalog.windowCentering config).perform (page (desktop.withBox "window-settings" b))
        config)
      fun _ => Stage.Meets (Presenting (config.url "/desktop") (withSettings b true)) paths
        [("session bypasses login", true),
         ("Settings window centered", b.hasArea && (config.centering.check b).passed)]
        [⟨"window_centering", config.screenshotPath "window_centering"⟩] := by
  have happ := withBox_obliging b
  have hurl : config.url "/desktop" = "http://localhost:5173/desktop" := by
    rw [Configuration.url, hstandard.baseUrl]
    decide +kernel
  have habsolute : Url.isAbsolute (config.url "/desktop") = true := by
    rw [hurl]
    decide +kernel
  have hroute : Url.path (config.url "/desktop") = "/desktop" := by
    rw [hurl]
    decide +kernel
  obtain ⟨entries, hentries, htoken⟩ := standardSession
  rw [← hstandard.session] at hentries
  have hicon : select? (withSettings b false) (.cssWithText ".desktop-icon" "Settings") =
      some [settingsIcon] := select?_settings (select?_icons b) rfl (by decide +kernel)
  obtain ⟨activity, htext, hwindows⟩ := select?_windows b
  have hwindow : select? (withSettings b true) (.cssWithText ".desktop-window" "Settings") =
      some [settingsWindow b true] :=
    select?_settings hwindows rfl (by rw [htext]; decide +kernel)
  have helsewhere : Run.Ensures (Presenting (config.url "/desktop") (withSettings b false))
      (Check.isElsewhere (page (desktop.withBox "window-settings" b)) config.markers.loginPath)
      fun outcome moment => outcome.passed = true ∧
        Presenting (config.url "/desktop") (withSettings b false) moment := by
    refine (isElsewhere_ensures _).imp (fun _ hbefore => hbefore) fun outcome _ hafter => ?_
    rw [hroute, hstandard.markers] at hafter
    exact ⟨hafter.1.trans (by decide), hafter.2⟩
  have hopens : Run.Ensures (Presenting (config.url "/desktop") (withSettings b false))
      (Run.ask (page (desktop.withBox "window-settings" b))
        (.click settingsIcon.box.center .primary))
      fun _ => Presenting (config.url "/desktop") (withSettings b true) := by
    rw [← primaryClick_settingsIcon]
    exact click_ensures settingsIcon.box.center
  have hcentered : Run.Ensures (Presenting (config.url "/desktop") (withSettings b true))
      (Check.isCentered (page (desktop.withBox "window-settings" b))
        ⟨.cssWithText ".desktop-window" "Settings", some .first⟩ config.centering)
      fun outcome moment => outcome.passed = (b.hasArea && (config.centering.check b).passed) ∧
        Presenting (config.url "/desktop") (withSettings b true) moment := by
    refine (isCentered_ensures happ hwindow).imp (fun _ hbefore => hbefore)
      fun outcome _ hafter => ?_
    rw [← centeredness_settingsWindow, ← hafter.1]
    exact ⟨rfl, hafter.2⟩
  rw [Scenario.perform, hstandard.windowCentering_steps]
  refine (Stage.ensures_onPage (install_ensures hentries)).bind fun _ => ?_
  refine .forM_cons (Step.ensures_navigate
    (navigate_ensures happ htoken habsolute hroute) (verify_ensures happ hentries)
    fun _ hadmits => hadmits.presents) ?_
  refine .forM_cons (Stage.ensures_checkAs helsewhere) ?_
  refine .forM_cons (Step.ensures_awaitReady
    (awaitReady_ensures happ hready (select?_icons b) rfl)) ?_
  refine .forM_cons (Step.ensures_click (awaitVisible_ensures happ hready hicon
    settingsIcon_shows) hopens) ?_
  refine .forM_cons (Step.ensures_awaitReady
    (awaitReady_ensures happ hready hwindows rfl)) ?_
  refine .forM_cons (Step.ensures_settle fun _ hmoment _ => hmoment) ?_
  refine .forM_cons (Stage.ensures_checkpoint screenshot_ensures hpath) ?_
  exact .forM_cons (Stage.ensures_checkAs hcentered) .forM_nil

/-- The centering scenario reports the geometric truth about the settings window of the desktop.
Whatever its box is, the scenario is not aborted, the window is reported as centered just when
the box has area and is where it is expected, the other check passes, and the checkpoint is
taken. -/
theorem windowCentering_reports_geometry (b : Box) (config : Configuration)
    (hstandard : config.IsStandard) (hvalid : config.validate = .ok ())
    (before : Setting PoolState)
    (hfiles : before.files.Takes ((Catalog.windowCentering config).artifacts config)) :
    ∃ result after,
      Harness.runOne (pool (desktop.withBox "window-settings" b) false) config
          (Catalog.windowCentering config) before = some (.ok result, after) ∧
      result.error = none ∧
      result.checks.map CheckRecord.verdict =
        [("session bypasses login", true),
         ("Settings window centered", b.hasArea && (config.centering.check b).passed)] ∧
      result.screenshots = [⟨"window_centering", config.screenshotPath "window_centering"⟩] := by
  have hready : 0 < config.timeouts.patience.budget :=
    UInt64.lt_iff_toNat_lt.mp
      (UInt64.pos_iff_ne_zero.mpr (Configuration.validate_eq_ok_iff.mp hvalid).ready)
  have hpath : config.screenshotPath "window_centering" ∈
      (Catalog.windowCentering config).artifacts config := by
    rw [Scenario.artifacts, hstandard.windowCentering_steps]
    exact List.mem_cons_self
  exact runOne_of_ensures (windowCentering_ensures b hstandard hready hpath) hfiles

/-- A configuration that leaves a wait one millisecond. -/
def hurriedConfiguration : Configuration := { timeouts := ⟨1, 0, 1⟩, tolerance := 20 }

theorem artifactFiles_take_centering :
    artifactFiles.Takes
      ((Catalog.windowCentering hurriedConfiguration).artifacts hurriedConfiguration) := by
  let written (contents : ByteArray) : Files :=
    ⟨(["home", "verification", "window_centering.png"], .file contents) :: artifactFiles.entries⟩
  exact .single written (fun _ => rfl) fun _ _ => rfl

/-- A window at no position at all is reported as not centered, and the scenario goes on. -/
theorem lostWindow_reported :
    hurriedConfiguration.IsStandard ∧ hurriedConfiguration.validate = .ok () ∧
      ∃ result after,
        Harness.runOne (pool (desktop.withBox "window-settings" ⟨0 / 0, 100, 800, 600⟩) false)
            hurriedConfiguration (Catalog.windowCentering hurriedConfiguration)
            ⟨⟨{}, 0⟩, artifactFiles, []⟩ = some (.ok result, after) ∧
        result.checks.map CheckRecord.verdict =
          [("session bypasses login", true), ("Settings window centered", false)] := by
  have hstandard : hurriedConfiguration.IsStandard := ⟨rfl, rfl, rfl, rfl⟩
  have hvalid : hurriedConfiguration.validate = .ok () := by decide +kernel
  have hverdict : ((⟨0 / 0, 100, 800, 600⟩ : Box).hasArea &&
      (hurriedConfiguration.centering.check ⟨0 / 0, 100, 800, 600⟩).passed) = false := by
    decide +kernel
  obtain ⟨result, after, hrun, -, hchecks, -⟩ := windowCentering_reports_geometry
    ⟨0 / 0, 100, 800, 600⟩ hurriedConfiguration hstandard hvalid ⟨⟨{}, 0⟩, artifactFiles, []⟩
    artifactFiles_take_centering
  rw [hverdict] at hchecks
  exact ⟨hstandard, hvalid, result, after, hrun, hchecks⟩

end Model

end DesktopTrial
