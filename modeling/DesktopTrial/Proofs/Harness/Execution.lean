import DesktopTrial.Harness
import DesktopTrial.Proofs.Scenario.Setting

/-!
# How scenarios are executed

An ended execution of a scenario took one of three ways: its page was refused, it was
performed to its end, or it was aborted.  Each way fixes the setting that is left and
the result, and the settings in between.  A run of the harness is a chain of
executions, one for every scenario.
-/

namespace DesktopTrial

variable {σ η : Type}

def Scenario.begin (scenario : Scenario) (setting : Setting σ) : Stage σ :=
  ⟨setting, false, { scenario := scenario.name }⟩

def ScenarioResult.abortedBy (failure : Failure) (shot : Option String)
    (result : ScenarioResult) : ScenarioResult :=
  { result with
    lastScreenshot := shot.or result.lastScreenshot, error := some failure.message }

namespace Harness

section Executed

variable (pool : Pool σ η) (config : Configuration) (scenario : Scenario)
  (before : Setting σ)

/-- The three ways of executing a scenario from some setting on. -/
inductive Executed : ScenarioResult × Option Failure → Setting σ → Prop where
  | refused {failure : Failure} {opened : Setting σ} {result : ScenarioResult} :
      openPage pool config.viewport (before.telling (.started scenario.name)) =
        some (.error failure, opened) →
      result = { scenario := scenario.name, error := some failure.message } →
      Executed (result, some failure)
        ((opened.telling (.aborted scenario.name failure none)).telling (.finished result))
  | completed {handle : η} {opened : Setting σ} {stage : Stage σ} {moment : Moment σ}
      {released : Except Failure Unit} {result : ScenarioResult} :
      openPage pool config.viewport (before.telling (.started scenario.name)) =
        some (.ok handle, opened) →
      scenario.perform (pool.page handle) config (scenario.begin opened) =
        some (.ok (), stage) →
      Run.ask (pool.page handle) .close stage.setting.moment = some (released, moment) →
      result = { stage.result with error := none } →
      Executed (result, none)
        (Setting.telling (.finished result) { stage.setting with moment })
  | aborted {handle : η} {opened : Setting σ} {stage : Stage σ} {failure : Failure}
      {shot : Option String} {shown : Setting σ} {moment : Moment σ}
      {released : Except Failure Unit} {result : ScenarioResult} :
      openPage pool config.viewport (before.telling (.started scenario.name)) =
        some (.ok handle, opened) →
      scenario.perform (pool.page handle) config (scenario.begin opened) =
        some (.error failure, stage) →
      captureFailure (pool.page handle) config scenario.name stage.setting =
        some (.ok shot, shown) →
      Run.ask (pool.page handle) .close shown.moment = some (released, moment) →
      result = stage.result.abortedBy failure shot →
      Executed (result, some failure)
        (Setting.telling (.finished result)
          { shown.telling (.aborted scenario.name failure shot) with moment })

end Executed

variable {pool : Pool σ η} {config : Configuration} {scenario : Scenario}
  {before after : Setting σ}

theorem openPage_eq_some {viewport : Size} {outcome : Except Failure η}
    (hended : openPage pool viewport before = some (outcome, after)) :
    ∃ moment, after = { before with moment } := by
  cases hended
  exact ⟨_, rfl⟩

theorem captureFailure_never_fails {page : Page σ} {name : String}
    {outcome : Except Failure (Option String)}
    (hended : captureFailure page config name before = some (outcome, after)) :
    ∃ attempted shot, outcome = .ok shot ∧
      Setting.capture page (failurePath config name) before = some (attempted, after) ∧
      shot = attempted.toOption.map fun _ => failurePath config name := by
  obtain ⟨attempted, middle, hcapture, hrest⟩ := Run.attempt_bind_eq_some hended
  cases attempted with
  | error failure =>
      cases hrest
      exact ⟨_, _, rfl, hcapture, rfl⟩
  | ok value =>
      cases hrest
      exact ⟨_, _, rfl, hcapture, rfl⟩

/-- Performing a scenario never fails itself: a failure is part of what it gives. -/
theorem perform_cases {page : Page σ}
    {outcome : Except Failure (ScenarioResult × Option Failure)}
    (hended : perform page config scenario before = some (outcome, after)) :
    ∃ stage, after = stage.setting ∧
      ((scenario.perform page config (scenario.begin before) = some (.ok (), stage) ∧
        outcome = .ok (stage.result, none)) ∨
      ∃ failure, scenario.perform page config (scenario.begin before) =
          some (.error failure, stage) ∧ outcome = .ok (stage.result, some failure)) := by
  rw [perform] at hended
  generalize hperform : ExceptT.run (scenario.perform page config) _ = performed at hended
  match performed, hended with
  | some (.ok (), stage), rfl => exact ⟨stage, rfl, .inl ⟨hperform, rfl⟩⟩
  | some (.error failure, stage), rfl => exact ⟨stage, rfl, .inr ⟨failure, hperform, rfl⟩⟩

/-- Performing a scenario on an open page never fails itself. -/
theorem performOn_cases {page : Page σ}
    {outcome : Except Failure (ScenarioResult × Option Failure)}
    (hended : performOn page config scenario before = some (outcome, after)) :
    (∃ stage, scenario.perform page config (scenario.begin before) = some (.ok (), stage) ∧
      outcome = .ok (stage.result, none) ∧ after = stage.setting) ∨
    (∃ failure stage shot shown,
      scenario.perform page config (scenario.begin before) = some (.error failure, stage) ∧
      captureFailure page config scenario.name stage.setting = some (.ok shot, shown) ∧
      outcome = .ok ({ stage.result with
        lastScreenshot := shot.or stage.result.lastScreenshot }, some failure) ∧
      after = shown.telling (.aborted scenario.name failure shot)) := by
  obtain ⟨⟨result, failure⟩, middle, hperformed, hrest⟩ := Run.bind_eq_some_of_ok
    (fun _ _ hperform => by
      obtain ⟨_, _, ⟨_, hok⟩ | ⟨_, _, hok⟩⟩ := perform_cases hperform <;> exact ⟨_, hok⟩) hended
  obtain ⟨stage, rfl, ⟨hperform, hresult⟩ | ⟨cause, hperform, hresult⟩⟩ :=
    perform_cases hperformed
  · cases hresult
    cases hrest
    exact .inl ⟨stage, hperform, rfl, rfl⟩
  · cases hresult
    obtain ⟨shot, shown, hcaptured, htold⟩ := Run.bind_eq_some_of_ok
      (fun _ _ hcapture => by
        obtain ⟨_, shot, hok, _⟩ := captureFailure_never_fails hcapture
        exact ⟨shot, hok⟩) hrest
    cases htold
    exact .inr ⟨cause, stage, shot, shown, hperform, hcaptured, rfl, rfl⟩

/-- Executing a scenario never fails itself, whatever becomes of the scenario. -/
theorem execute_cases {outcome : Except Failure (ScenarioResult × Option Failure)}
    (hended : execute pool config scenario before = some (outcome, after)) :
    ∃ executed, outcome = .ok executed ∧
      Executed pool config scenario before executed after := by
  rw [execute, Setting.tell_bind] at hended
  obtain ⟨attempted, opened, hopen, hrest⟩ := Run.attempt_bind_eq_some hended
  cases attempted with
  | error failure =>
      cases hrest
      exact ⟨_, rfl, .refused hopen rfl⟩
  | ok handle =>
      obtain ⟨performed, middle, hperformed, hrest⟩ := Run.bind_eq_some_of_ok
        (fun _ _ hperform => by
          obtain ⟨_, _, hok, _⟩ | ⟨_, _, _, _, _, _, hok, _⟩ := performOn_cases hperform <;>
            exact ⟨_, hok⟩) hrest
      obtain ⟨released, closed, hclose, hrest⟩ := Run.attempt_bind_eq_some hrest
      obtain ⟨moment, hreleased, rfl⟩ := Setting.onPage_eq_some hclose
      obtain ⟨stage, hperform, hresult, rfl⟩ |
        ⟨failure, stage, shot, shown, hperform, hcapture, hresult, rfl⟩ :=
        performOn_cases hperformed
      · cases hresult
        cases hrest
        exact ⟨_, rfl, .completed hopen hperform hreleased rfl⟩
      · cases hresult
        cases hrest
        exact ⟨_, rfl, .aborted hopen hperform hcapture hreleased rfl⟩

/-! ## What an execution depends on -/

theorem performOn_congr {page : Page σ} {scenario' : Scenario}
    (hname : scenario'.name = scenario.name)
    (hperform : scenario'.perform page config (scenario.begin before) =
      scenario.perform page config (scenario.begin before)) :
    performOn page config scenario' before = performOn page config scenario before := by
  have hperformed : perform page config scenario' before =
      perform page config scenario before := by
    rw [Scenario.begin] at hperform
    rw [perform, perform, hname, ExceptT.run, ExceptT.run, hperform]
  rw [performOn, performOn, Run.bind_apply, Run.bind_apply, hperformed, hname]

/-- Of a scenario only the name and what performing it does on the page it gets matter. -/
theorem execute_congr {scenario' : Scenario} (hname : scenario'.name = scenario.name)
    (hperform : ∀ handle opened,
      openPage pool config.viewport (before.telling (.started scenario.name)) =
        some (.ok handle, opened) →
      scenario'.perform (pool.page handle) config (scenario.begin opened) =
        scenario.perform (pool.page handle) config (scenario.begin opened)) :
    execute pool config scenario' before = execute pool config scenario before := by
  rw [execute, execute, Setting.tell_bind, Setting.tell_bind, hname, Run.bind_apply,
    Run.bind_apply, Run.attempt]
  cases hopen : openPage pool config.viewport (before.telling (.started scenario.name)) with
  | none => simp only [Run.proceed_none]
  | some ended =>
      obtain ⟨failure | handle, opened⟩ := ended
      · simp only [Run.proceed_ok]
      · simp only [Run.proceed_ok]
        rw [Run.bind_apply, Run.bind_apply, performOn_congr hname (hperform handle opened hopen)]

/-! ## Executions in turn -/

/-- Items are taken in turn, each from where the one before has led, and each yields
something. -/
inductive InTurn {ι κ ω : Type} (step : ι → ω → κ → ω → Prop) :
    List ι → ω → List κ → ω → Prop where
  | nil {state : ω} : InTurn step [] state [] state
  | cons {item : ι} {items : List ι} {before middle after : ω} {yielded : κ} {rest : List κ} :
      step item before yielded middle → InTurn step items middle rest after →
      InTurn step (item :: items) before (yielded :: rest) after

theorem results_cases {scenarios : List Scenario}
    {outcome : Except Failure (List ScenarioResult)}
    (hended : (scenarios.mapM fun scenario => do
      let (result, _) ← execute pool config scenario
      pure result) before = some (outcome, after)) :
    ∃ executed, InTurn (Executed pool config) scenarios before executed after ∧
      outcome = .ok (executed.map (·.1)) := by
  have hexecutes (scenario : Scenario) (setting : Setting σ) :
      ∀ outcome after, execute pool config scenario setting = some (outcome, after) →
        ∃ executed, outcome = .ok executed :=
    fun _ _ hexecute => (execute_cases hexecute).imp fun _ => And.left
  induction scenarios generalizing before after outcome with
  | nil =>
      cases hended
      exact ⟨[], .nil, rfl⟩
  | cons scenario scenarios ih =>
      rw [List.mapM_cons, bind_assoc] at hended
      obtain ⟨⟨result, failure⟩, middle, hexecute, hrest⟩ :=
        Run.bind_eq_some_of_ok (hexecutes scenario before) hended
      obtain ⟨_, hexecuted, hfirst⟩ := execute_cases hexecute
      cases hexecuted
      simp only [pure_bind] at hrest
      obtain ⟨results, last, hothers, hlast⟩ := Run.bind_eq_some_of_ok
        (fun _ _ hothers => by
          obtain ⟨others, _, hok⟩ := ih hothers
          exact ⟨_, hok⟩) hrest
      obtain ⟨others, hchain, hresults⟩ := ih hothers
      cases hresults
      cases hlast
      exact ⟨(result, failure) :: others, .cons hfirst hchain, rfl⟩

/-- A run of the harness never fails, and reports on every scenario. -/
theorem runAll_cases {scenarios : List Scenario} {outcome : Except Failure Report}
    (hended : runAll pool config scenarios before = some (outcome, after)) :
    ∃ executed, InTurn (Executed pool config) scenarios before executed after ∧
      outcome = .ok ⟨config.baseUrl, executed.map (·.1)⟩ := by
  obtain ⟨results, last, hresults, hlast⟩ := Run.bind_eq_some_of_ok
    (fun _ _ hresults => by
      obtain ⟨executed, _, hok⟩ := results_cases hresults
      exact ⟨_, hok⟩) hended
  obtain ⟨executed, hchain, hresults⟩ := results_cases hresults
  cases hresults
  cases hlast
  exact ⟨executed, hchain, rfl⟩

end Harness

end DesktopTrial
