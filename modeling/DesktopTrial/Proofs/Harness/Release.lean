import DesktopTrial.Proofs.Model.Pool
import DesktopTrial.Proofs.Pool.Log

/-!
# Pages are released

Whatever fails on the way, a scenario requests one page, closes it once, and asks
nothing of it afterwards; only then the next page is requested.  A scenario that is
aborted asks for a screenshot of the failure in between and for nothing else.
-/

namespace DesktopTrial

variable {σ η : Type}

def Setting.log (setting : Setting (Logged σ η)) : List (LogEntry η) := setting.moment.page.log

/-- What one scenario asks of a pool. -/
inductive Visit (η : Type) where
  /-- The page that it requests is refused. -/
  | refused (failure : Failure)
  /-- It gets a page, on which the scenario's own calls are made. -/
  | held (handle : η) (own : List Call) (aborted : Bool)

def Visit.entries (viewport : Size) : Visit η → List (LogEntry η)
  | .refused failure => [.opened viewport (.error failure)]
  | .held handle own aborted =>
      .opened viewport (.ok handle) ::
        LogEntry.calls handle (own ++ if aborted then [.screenshot, .close] else [.close])

namespace Harness

/-- The visit of a scenario to a pool.  The scenario's own calls are all that is asked
of the page until the scenario has come to its end or to the failure of a step; closing
the page is not among them. -/
inductive Visited (pool : Pool σ η) (config : Configuration) (scenario : Scenario)
    (before : Setting (Logged σ η)) : Visit η → Setting (Logged σ η) → Prop where
  | refused {failure : Failure} {after : Setting (Logged σ η)} :
      after.log = before.log ++ Visit.entries config.viewport (.refused failure) →
      Visited pool config scenario before (.refused failure) after
  | held {handle : η} {own : List Call} {opened after : Setting (Logged σ η)}
      {stage : Stage (Logged σ η)} {outcome : Except Failure Unit} :
      openPage pool.logged config.viewport (before.telling (.started scenario.name)) =
        some (.ok handle, opened) →
      scenario.perform (pool.logged.page handle) config (scenario.begin opened) =
        some (outcome, stage) →
      (∀ call ∈ own, call.isOwn = true) →
      stage.setting.log =
        before.log ++ .opened config.viewport (.ok handle) :: LogEntry.calls handle own →
      after.log =
        before.log ++ Visit.entries config.viewport (.held handle own !outcome.isOk) →
      Visited pool config scenario before (.held handle own !outcome.isOk) after

variable {pool : Pool σ η} {config : Configuration} {scenario : Scenario}

theorem openPage_logged {viewport : Size} {before after : Setting (Logged σ η)}
    {outcome : Except Failure η}
    (hended : openPage pool.logged viewport before = some (outcome, after)) :
    after.log = before.log ++ [.opened viewport outcome] := by
  rw [openPage, Pool.logged] at hended
  cases hended
  rfl

/-- From the moment the page is handed out, the log is that of the scenario's own calls. -/
theorem performed_log {handle : η} {before opened : Setting (Logged σ η)}
    {stage : Stage (Logged σ η)} {outcome : Except Failure Unit}
    (hopen : openPage pool.logged config.viewport (before.telling (.started scenario.name)) =
      some (.ok handle, opened))
    (hperform : scenario.perform (pool.logged.page handle) config (scenario.begin opened) =
      some (outcome, stage)) :
    ∃ own : List Call, (∀ call ∈ own, call.isOwn = true) ∧
      stage.setting.log =
        before.log ++ .opened config.viewport (.ok handle) :: LogEntry.calls handle own := by
  obtain ⟨own, hown, hlog⟩ := Scenario.perform_logged hperform
  refine ⟨own, hown, ?_⟩
  calc
    stage.setting.log = opened.log ++ LogEntry.calls handle own := hlog
    _ = before.log ++ .opened config.viewport (.ok handle) :: LogEntry.calls handle own := by
      rw [openPage_logged hopen, List.append_assoc]
      rfl

/-- However a scenario is executed, its page is closed in the end. -/
theorem Executed.visited {before after : Setting (Logged σ η)}
    {executed : ScenarioResult × Option Failure}
    (hexecuted : Executed pool.logged config scenario before executed after) :
    ∃ visit, Visited pool config scenario before visit after := by
  cases hexecuted with
  | refused hopen _ =>
      have hlog := openPage_logged hopen
      exact ⟨_, .refused hlog⟩
  | @completed handle opened stage moment released result hopen hperform hclose _ =>
      obtain ⟨own, hown, hlog⟩ := performed_log hopen hperform
      refine ⟨_, .held hopen hperform hown hlog ?_⟩
      calc
        moment.page.log = stage.setting.log ++ LogEntry.calls handle [.close] :=
          Run.ask_logged hclose
        _ = _ := by
          simp [hlog, Visit.entries, LogEntry.calls, Except.isOk, Except.toBool]
  | @aborted handle opened stage failure shot shown moment released result hopen hperform
      hcapture hclose _ =>
      obtain ⟨own, hown, hlog⟩ := performed_log hopen hperform
      obtain ⟨_, _, _, hshown, _⟩ := captureFailure_never_fails hcapture
      refine ⟨_, .held hopen hperform hown hlog ?_⟩
      calc
        moment.page.log = shown.log ++ LogEntry.calls handle [.close] := Run.ask_logged hclose
        _ = stage.setting.log ++ LogEntry.calls handle [.screenshot] ++
            LogEntry.calls handle [.close] := by
          congr 1
          exact Setting.capture_logged hshown
        _ = _ := by
          simp [hlog, Visit.entries, LogEntry.calls, Except.isOk, Except.toBool]

theorem InTurn.log_eq {scenarios : List Scenario} {before after : Setting (Logged σ η)}
    {visits : List (Visit η)}
    (hvisits : InTurn (Visited pool config) scenarios before visits after) :
    after.log = before.log ++ visits.flatMap (Visit.entries config.viewport) := by
  induction hvisits with
  | nil => simp
  | cons hvisit _ ih =>
      rw [ih, List.flatMap_cons, ← List.append_assoc]
      cases hvisit with
      | refused hlog => rw [hlog]
      | held _ _ _ _ hlog => rw [hlog]

theorem InTurn.visited {scenarios : List Scenario} {before after : Setting (Logged σ η)}
    {executed : List (ScenarioResult × Option Failure)}
    (hchain : InTurn (Executed pool.logged config) scenarios before executed after) :
    ∃ visits, InTurn (Visited pool config) scenarios before visits after := by
  induction hchain with
  | nil => exact ⟨[], .nil⟩
  | cons hexecuted _ ih =>
      obtain ⟨visit, hvisit⟩ := hexecuted.visited
      obtain ⟨visits, hvisits⟩ := ih
      exact ⟨visit :: visits, .cons hvisit hvisits⟩

/-- Logging changes nothing.  The log of a run is that of one visit for every scenario,
in order: the request for a page and, if there is one, the scenario's own calls, a
screenshot if the scenario was aborted, and the closing of the page.  A run on pages that
answer has such a log, since it ends.  On a model pool, as many pages are released as
handed out: one for every scenario. -/
theorem pages_released (pool : Pool σ η) (config : Configuration)
    (scenarios : List Scenario) :
    (∀ before : Setting (Logged σ η),
      runAll pool config scenarios before.unlogged =
        (runAll pool.logged config scenarios before).map fun ended =>
          (ended.1, ended.2.unlogged)) ∧
    (∀ (before after : Setting (Logged σ η)) (outcome : Except Failure Report),
      runAll pool.logged config scenarios before = some (outcome, after) →
      ∃ visits, InTurn (Visited pool config) scenarios before visits after ∧
        after.log = before.log ++ visits.flatMap (Visit.entries config.viewport)) ∧
    ((∀ handle, (pool.page handle).Answers) → 1 ≤ config.timeouts.poll.toNat →
      ∀ before : Setting (Logged σ η),
      ∃ outcome after, runAll pool.logged config scenarios before = some (outcome, after)) ∧
    (∀ (app : Model.App) (before after : Setting Model.PoolState)
      (outcome : Except Failure Report),
      runAll (Model.pool app false) config scenarios before = some (outcome, after) →
      after.moment.page.opened = before.moment.page.opened + scenarios.length ∧
        after.moment.page.released = before.moment.page.released + scenarios.length) := by
  refine ⟨runAll_unlogged pool config scenarios, ?_, ?_, ?_⟩
  · intro before after outcome hended
    obtain ⟨executed, hchain, _⟩ := runAll_cases hended
    obtain ⟨visits, hvisits⟩ := hchain.visited
    exact ⟨visits, hvisits, hvisits.log_eq⟩
  · intro hanswers hpause before
    refine runAll_ends (fun handle => ?_) hpause scenarios before
    exact (hanswers handle).logged handle
  · intro app before after outcome hended
    obtain ⟨executed, hchain, _⟩ := runAll_cases hended
    exact Model.runAll_counts hchain

/-- A page that aborts its scenario is released, and so is a model page. -/
theorem broken_page_released :
    (∃ outcome after visits,
      runAll brokenPool.logged {} [⟨"visit", "", [.checkpoint "home"]⟩] ⟨⟨⟨(), []⟩, 0⟩, .empty, []⟩ =
        some (outcome, after) ∧
      after.log = [] ++ List.flatMap (Visit.entries ⟨1280, 800⟩) visits) ∧
    (∃ outcome after,
      runAll (Model.pool {} false) {} [⟨"visit", "", [.checkpoint "home"]⟩] ⟨⟨{}, 0⟩, .empty, []⟩ =
        some (outcome, after) ∧
      after.moment.page.opened = 1 ∧ after.moment.page.released = 1) := by
  obtain ⟨_, hlog, hends, hmodel⟩ := pages_released brokenPool {} [⟨"visit", "", [.checkpoint "home"]⟩]
  constructor
  · obtain ⟨outcome, after, hended⟩ := hends brokenPool_answers (by decide) _
    obtain ⟨visits, _, hvisits⟩ := hlog _ _ _ hended
    exact ⟨outcome, after, visits, hended, hvisits⟩
  · have hends : (runAll (Model.pool {} false) {} [⟨"visit", "", [.checkpoint "home"]⟩]
        ⟨⟨{}, 0⟩, .empty, []⟩).isSome := by decide +kernel
    obtain ⟨⟨outcome, after⟩, hended⟩ := Option.isSome_iff_exists.mp hends
    exact ⟨outcome, after, hended, hmodel _ _ _ _ hended⟩

end Harness

end DesktopTrial
