import DesktopTrial.Scenario.Runner

/-!
# The harness

Scenarios are run one after another, each on a fresh page of a pool.  Whatever
becomes of a scenario, its page is closed before the next one is opened, and its
result is part of the report.
-/

namespace DesktopTrial

/-- A source of fresh pages.  `σ` is the state of all pages together and `η` names
one of them. -/
structure Pool (σ η : Type) where
  /-- Opens a page with a viewport of this size. -/
  «open» : σ → Size → Except Failure η × σ
  page : η → Page σ

namespace Harness

variable {σ η α : Type}

/-- Opens a page of the pool. -/
def openPage (pool : Pool σ η) (viewport : Size) : Run (Setting σ) η := fun setting =>
  match pool.open setting.moment.page viewport with
  | (opened, after) => some (opened, { setting with moment := ⟨after, setting.moment.clock⟩ })

def failurePath (config : Configuration) (scenario : String) : String :=
  config.screenshotPath (scenario ++ "-error")

/-- Tries to write a screenshot that shows a failure, and says where it is. -/
def captureFailure (page : Page σ) (config : Configuration) (scenario : String) :
    Run (Setting σ) (Option String) := do
  let path := failurePath config scenario
  match ← Run.attempt (Setting.capture page path) with
  | .ok () => return some path
  | .error _ => return none

/-- Performs a scenario from its first step on: what it left behind, and the
failure that aborted it. -/
def perform (page : Page σ) (config : Configuration) (scenario : Scenario) :
    Run (Setting σ) (ScenarioResult × Option Failure) := fun setting =>
  match (scenario.perform page config).run ⟨setting, false, { scenario := scenario.name }⟩ with
  | some (.ok (), stage) => some (.ok (stage.result, none), stage.setting)
  | some (.error failure, stage) => some (.ok (stage.result, some failure), stage.setting)
  | none => none

/-- Performs a scenario on an open page; a failure is shown in a screenshot. -/
def performOn (page : Page σ) (config : Configuration) (scenario : Scenario) :
    Run (Setting σ) (ScenarioResult × Option Failure) := do
  let (result, failure) ← perform page config scenario
  match failure with
  | none => return (result, none)
  | some failure =>
      let shot ← captureFailure page config scenario.name
      Setting.tell (.aborted scenario.name failure shot)
      return ({ result with lastScreenshot := shot.or result.lastScreenshot }, some failure)

/-- Runs a scenario on a fresh page, which is closed in the end.  A page that
cannot be closed is given up silently. -/
def execute (pool : Pool σ η) (config : Configuration) (scenario : Scenario) :
    Run (Setting σ) (ScenarioResult × Option Failure) := do
  Setting.tell (.started scenario.name)
  let (result, failure) ←
    match ← Run.attempt (openPage pool config.viewport) with
    | .ok handle => do
        let page := pool.page handle
        let performed ← performOn page config scenario
        let _ ← Run.attempt (Setting.onPage (Run.ask page .close))
        pure performed
    | .error failure => do
        Setting.tell (.aborted scenario.name failure none)
        pure ({ scenario := scenario.name }, some failure)
  let result := { result with error := failure.map Failure.message }
  Setting.tell (.finished result)
  return (result, failure)

/-- Runs one scenario and gives its result, or the failure that aborted it. -/
def runOne (pool : Pool σ η) (config : Configuration) (scenario : Scenario) :
    Run (Setting σ) ScenarioResult := do
  match ← execute pool config scenario with
  | (_, some failure) => throw failure
  | (result, none) => return result

/-- Runs scenarios one after another. -/
def runAll (pool : Pool σ η) (config : Configuration) (scenarios : List Scenario) :
    Run (Setting σ) Report := do
  let results ← scenarios.mapM fun scenario => do
    let (result, _) ← execute pool config scenario
    pure result
  return ⟨config.baseUrl, results⟩

end Harness

end DesktopTrial
