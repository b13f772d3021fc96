import DesktopTrial.Check.OnPage
import DesktopTrial.Report
import DesktopTrial.Scenario
import DesktopTrial.Session.OnPage

/-!
# Running a scenario

The steps of a scenario are taken in order.  A check that does not hold is
recorded and the scenario goes on; a failure ends it.  What was recorded before a
failure stays.
-/

namespace DesktopTrial

/-- A page at some time, the files, and the events told so far. -/
structure Setting (σ : Type) where
  moment : Moment σ
  files : Files
  events : List Event

/-- A scenario under way. -/
structure Stage (σ : Type) where
  setting : Setting σ
  /-- The session was confirmed on this page. -/
  confirmed : Bool
  result : ScenarioResult

namespace Setting

variable {σ α : Type}

def onPage (run : Run (Moment σ) α) : Run (Setting σ) α :=
  run.on (·.moment) fun moment setting => { setting with moment }

def tell (event : Event) : Run (Setting σ) Unit :=
  modify fun setting => { setting with events := setting.events ++ [event] }

def onFiles (work : Files.Work α) : Run (Setting σ) α := fun setting =>
  match work setting.files with
  | (.ok value, files) => some (.ok value, { setting with files })
  | (.error e, files) => some (.error (.file e), { setting with files })

/-- Writes a screenshot of the page to a file, with the directories above it. -/
def capture (page : Page σ) (path : String) : Run (Setting σ) Unit := do
  onFiles (Files.save path (← onPage (Run.ask page .screenshot)))

end Setting

namespace Stage

variable {σ α : Type}

def onSetting (run : Run (Setting σ) α) : Run (Stage σ) α :=
  run.on (·.setting) fun setting stage => { stage with setting }

def onPage (run : Run (Moment σ) α) : Run (Stage σ) α := onSetting (Setting.onPage run)

/-- Tells and records a check. -/
def record (name : String) (outcome : Outcome) : Run (Stage σ) Unit := do
  let check : CheckRecord := ⟨name, outcome.passed, outcome.detail⟩
  onSetting (Setting.tell (.check (← get).result.scenario check))
  modify fun stage =>
    { stage with result := { stage.result with checks := stage.result.checks ++ [check] } }

def checkAs (name : String) (check : Run (Moment σ) Outcome) : Run (Stage σ) Unit := do
  record name (← onPage check)

/-- Confirms the session, unless that was done before. -/
def confirmOnce (page : Page σ) (seed : Seed) : Run (Stage σ) Unit := do
  if !(← get).confirmed then
    onPage (seed.verify page)
    modify fun stage => { stage with confirmed := true }

/-- Writes and records a screenshot. -/
def checkpoint (page : Page σ) (name path : String) : Run (Stage σ) Unit := do
  onSetting (Setting.capture page path)
  let shot : Checkpoint := ⟨name, path⟩
  onSetting (Setting.tell (.checkpoint (← get).result.scenario shot))
  modify fun stage =>
    { stage with
      result :=
        { stage.result with
          screenshots := stage.result.screenshots ++ [shot], lastScreenshot := some path } }

end Stage

def Configuration.screenshotPath (config : Configuration) (name : String) : String :=
  Path.join config.artifactDir (name ++ ".png")

/-- How the configured context menu is recognised and dismissed. -/
def Configuration.menuHandling (config : Configuration) : MenuHandling :=
  ⟨config.markers.contextMenu, config.dismissPoint, config.timeouts.settle.toNat⟩

variable {σ : Type}

/-- Takes one step. -/
def Step.take (page : Page σ) (config : Configuration) (step : Step) : Run (Stage σ) Unit :=
  match step with
  | .navigate path => do
      Stage.onPage (Run.ask page (.navigate (config.url path)))
      Stage.confirmOnce page (Seed.ofSettings config.session)
  | .awaitReady condition => do
      let _ ← Stage.onPage (Readiness.awaitReady page condition config.timeouts.patience)
  | .click target => Stage.onPage do
      let box ← Readiness.awaitVisible page target config.timeouts.patience
      Run.ask page (.click box.center .primary)
  | .settle => Stage.onPage (Run.sleep config.timeouts.settle.toNat)
  | .assertVisible name target => Stage.checkAs name (Check.isVisible page target)
  | .assertText name scope wanted occurrence =>
      Stage.checkAs name (Check.containsText page scope wanted occurrence)
  | .assertCount name target count => Stage.checkAs name (Check.hasCount page target count)
  | .assertCentered name target =>
      Stage.checkAs name (Check.isCentered page target config.centering)
  | .assertNotRedirected name =>
      Stage.checkAs name (Check.isElsewhere page config.markers.loginPath)
  | .probeRegions probes => probes.forM fun probe =>
      Stage.checkAs probe.checkName (probe.check page config.menuHandling)
  | .checkpoint name => Stage.checkpoint page name (config.screenshotPath name)

/-- Installs the configured session and takes every step. -/
def Scenario.perform (page : Page σ) (config : Configuration) (scenario : Scenario) :
    Run (Stage σ) Unit := do
  Stage.onPage ((Seed.ofSettings config.session).install page)
  scenario.steps.forM fun step => step.take page config

end DesktopTrial
