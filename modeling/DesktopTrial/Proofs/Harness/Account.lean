import DesktopTrial.Model.Fault
import DesktopTrial.Model.Pool
import DesktopTrial.Proofs.Harness.Story
import DesktopTrial.Proofs.Page.Transcript
import DesktopTrial.Proofs.Pool.Log

/-!
# What a scenario accounts for

A scenario succeeds when its page was opened, its session installed and no step failed;
it has then recorded every check and every checkpoint that its steps announce.  If a
step fails, the scenario has recorded what was announced up to there, and nothing that
would have followed has any effect.
-/

namespace DesktopTrial

variable {σ η : Type}

/-- The result names the checks and checkpoints that the steps announce, in order. -/
structure ScenarioResult.Covers (result : ScenarioResult) (steps : List Step) : Prop where
  checks : result.checks.map (·.name) = steps.flatMap Step.checkNames
  checkpoints : result.screenshots.map (·.name) = steps.flatMap Step.checkpointNames

theorem Stage.NotedAll.covers {steps : List Step} {before after : Stage σ}
    (hnoted : NotedAll steps before after) (hchecks : before.result.checks = [])
    (hscreenshots : before.result.screenshots = []) : after.result.Covers steps := by
  obtain ⟨notes, hnoted, hcheckNames, hcheckpointNames⟩ := hnoted
  constructor
  · rw [hnoted.result, ScenarioResult.addAll_checks, hchecks, List.nil_append, hcheckNames]
  · rw [hnoted.result, ScenarioResult.addAll_screenshots, hscreenshots, List.nil_append,
      hcheckpointNames]

namespace Harness

/-- The scenario got a page, and its session was installed on it. -/
def Prepared (pool : Pool σ η) (config : Configuration) (scenario : Scenario)
    (before : Setting σ) (handle : η) (installed : Stage σ) : Prop :=
  ∃ opened,
    openPage pool config.viewport (before.telling (.started scenario.name)) =
      some (.ok handle, opened) ∧
    Stage.onPage ((Seed.ofSettings config.session).install (pool.page handle))
      (scenario.begin opened) = some (.ok (), installed)

/-- Taking the steps stops at the step with an index, which fails. -/
abbrev StopsAt (page : Page σ) (config : Configuration) :=
  Run.StopsAt fun step : Step => step.take page config

section Prepared

variable {pool : Pool σ η} {config : Configuration} {scenario : Scenario}
  {before after : Setting σ} {handle : η} {installed : Stage σ}

theorem Prepared.perform_eq (hprepared : Prepared pool config scenario before handle installed)
    {opened : Setting σ}
    (hopen : openPage pool config.viewport (before.telling (.started scenario.name)) =
      some (.ok handle, opened)) :
    scenario.perform (pool.page handle) config (scenario.begin opened) =
      (scenario.steps.forM fun step => step.take (pool.page handle) config) installed := by
  obtain ⟨_, hopen', hinstall⟩ := hprepared
  cases hopen.symm.trans hopen'
  rw [Scenario.perform, Run.bind_apply, hinstall, Run.proceed_ok]

theorem Prepared.blank (hprepared : Prepared pool config scenario before handle installed) :
    installed.result.checks = [] ∧ installed.result.screenshots = [] := by
  obtain ⟨opened, _, hinstall⟩ := hprepared
  obtain ⟨_, _, rfl⟩ := Stage.onPage_eq_some hinstall
  exact ⟨rfl, rfl⟩

/-- Only a page that was refused, a session that was not installed or a failing step
aborts a scenario. -/
theorem Executed.completed_iff {result : ScenarioResult} {failure : Option Failure}
    (hexecuted : Executed pool config scenario before (result, failure) after) :
    failure = none ↔ ∃ handle installed,
      Prepared pool config scenario before handle installed ∧
      ∀ k step reached failure stopped,
        ¬ StopsAt (pool.page handle) config scenario.steps installed k step reached failure
          stopped := by
  cases hexecuted with
  | refused hopen _ =>
      refine ⟨nofun, ?_⟩
      rintro ⟨handle, installed, ⟨_, hopen', _⟩, _⟩
      cases hopen.symm.trans hopen'
  | @completed handle opened stage _ _ _ hopen hperform _ _ =>
      refine ⟨fun _ => ?_, fun _ => rfl⟩
      obtain ⟨_, installed, hinstall, hsteps⟩ := Run.bind_eq_ok hperform
      refine ⟨handle, installed, ⟨opened, hopen, hinstall⟩, ?_⟩
      intro k step reached failure stopped hstops
      cases hsteps.symm.trans hstops.forM_eq
  | @aborted handle opened stage failure _ _ _ _ _ hopen hperform _ _ _ =>
      refine ⟨nofun, ?_⟩
      rintro ⟨handle', installed, hprepared, hnever⟩
      cases hopen.symm.trans hprepared.choose_spec.1
      rw [hprepared.perform_eq hopen] at hperform
      obtain ⟨k, step, reached, hstops⟩ := Run.forM_eq_error hperform
      exact (hnever k step reached failure stage hstops).elim

/-- A scenario that was not aborted has recorded all that its steps announce. -/
theorem Executed.covers {result : ScenarioResult}
    (hexecuted : Executed pool config scenario before (result, none) after) :
    result.Covers scenario.steps := by
  cases hexecuted with
  | @completed handle opened stage _ _ _ hopen hperform _ hresult =>
      obtain ⟨_, installed, hinstall, hsteps⟩ := Run.bind_eq_ok hperform
      have hprepared : Prepared pool config scenario before handle installed :=
        ⟨opened, hopen, hinstall⟩
      have hcovers :=
        (Stage.noted_steps hsteps).covers hprepared.blank.1 hprepared.blank.2
      rw [hresult]
      exact ⟨hcovers.checks, hcovers.checkpoints⟩

/-- A scenario that a step aborted has recorded what the steps before announce, and of
the failing step what the parts before the failing one announce. -/
theorem Executed.covers_stopped {result : ScenarioResult} {cause : Option Failure} {k : Nat}
    {step : Step} {reached stopped : Stage σ} {failure : Failure}
    (hexecuted : Executed pool config scenario before (result, cause) after)
    (hprepared : Prepared pool config scenario before handle installed)
    (hstops : StopsAt (pool.page handle) config scenario.steps installed k step reached
      failure stopped) :
    cause = some failure ∧ ∃ done part middle,
      StopsAt (pool.page handle) config step.parts reached done part middle failure stopped ∧
      result.Covers (scenario.steps.take k ++ step.parts.take done) := by
  obtain ⟨opened, hopen, _⟩ := id hprepared
  have hperform := hprepared.perform_eq hopen
  rw [hstops.forM_eq] at hperform
  obtain ⟨done, part, middle, hparts, hnoted⟩ := Stage.noted_failed_step hstops.failed
  have hcovers := ((Stage.noted_steps hstops.taken).append hnoted).covers
    hprepared.blank.1 hprepared.blank.2
  cases hexecuted with
  | refused hopen' _ => cases hopen.symm.trans hopen'
  | completed hopen' hperform' _ _ =>
      cases hopen.symm.trans hopen'
      cases hperform.symm.trans hperform'
  | aborted hopen' hperform' _ _ hresult =>
      cases hopen.symm.trans hopen'
      cases hperform.symm.trans hperform'
      rw [hresult]
      exact ⟨rfl, done, part, middle, hparts, hcovers.checks, hcovers.checkpoints⟩

/-- The steps after the one that fails have no effect on anything. -/
theorem execute_replace {k : Nat} {step : Step} {reached stopped : Stage σ}
    {failure : Failure} (hprepared : Prepared pool config scenario before handle installed)
    (hstops : StopsAt (pool.page handle) config scenario.steps installed k step reached
      failure stopped) (rest : List Step) :
    execute pool config { scenario with steps := scenario.steps.take (k + 1) ++ rest } before =
      execute pool config scenario before := by
  refine execute_congr rfl fun handle' opened hopen => ?_
  obtain ⟨_, hopen', hinstall⟩ := id hprepared
  cases hopen'.symm.trans hopen
  rw [hprepared.perform_eq hopen, hstops.forM_eq, Scenario.perform, Run.bind_apply, hinstall,
    Run.proceed_ok]
  exact (hstops.replace rest).forM_eq

theorem runOne_cases {outcome : Except Failure ScenarioResult}
    (hended : runOne pool config scenario before = some (outcome, after)) :
    ∃ result failure, execute pool config scenario before = some (.ok (result, failure), after) ∧
      Executed pool config scenario before (result, failure) after ∧
      outcome = failure.elim (.ok result) .error := by
  obtain ⟨⟨result, failure⟩, middle, hexecute, hrest⟩ := Run.bind_eq_some_of_ok
    (fun _ _ hexecute => (execute_cases hexecute).imp fun _ => And.left) hended
  obtain ⟨_, hexecuted, hways⟩ := execute_cases hexecute
  cases hexecuted
  cases failure with
  | none =>
      cases hrest
      exact ⟨result, none, hexecute, hways, rfl⟩
  | some failure =>
      cases hrest
      exact ⟨result, some failure, hexecute, hways, rfl⟩

end Prepared

/-- Logging changes nothing.  A run of one scenario that ends gives a result just when
the scenario was prepared and no step failed, and the result covers the scenario's steps.
When a step fails, the failure is the run's outcome; the events and the recorded result
cover the steps before and the parts of the failing step before the failure; and with any
other steps after the failing one the execution is the same, the log included.  A run on
pages that answer ends. -/
theorem runOne_accounts (pool : Pool σ η) (config : Configuration) (scenario : Scenario)
    (before : Setting (Logged σ η)) :
    (runOne pool config scenario before.unlogged =
      (runOne pool.logged config scenario before).map fun ended =>
        (ended.1, ended.2.unlogged)) ∧
    (∀ (outcome : Except Failure ScenarioResult) (after : Setting (Logged σ η)),
      runOne pool.logged config scenario before = some (outcome, after) →
      ((∃ result, outcome = .ok result) ↔
        ∃ handle installed, Prepared pool.logged config scenario before handle installed ∧
          ∀ k step reached failure stopped,
            ¬ StopsAt (pool.logged.page handle) config scenario.steps installed k step reached
              failure stopped) ∧
      ∀ result, outcome = .ok result → result.Covers scenario.steps) ∧
    (∀ (handle : η) (installed : Stage (Logged σ η)) (k : Nat) (step : Step)
      (reached : Stage (Logged σ η)) (failure : Failure) (stopped : Stage (Logged σ η)),
      Prepared pool.logged config scenario before handle installed →
      StopsAt (pool.logged.page handle) config scenario.steps installed k step reached failure
        stopped →
      (∀ (outcome : Except Failure ScenarioResult) (after : Setting (Logged σ η)),
        runOne pool.logged config scenario before = some (outcome, after) →
        outcome = .error failure ∧ ∃ (tale : Tale) (done : Nat) (part : Step)
          (middle : Stage (Logged σ η)),
          execute pool.logged config scenario before =
            some (.ok (tale.result, some failure), after) ∧
          after.events = before.events ++ tale.events ∧ tale.Consistent ∧
          StopsAt (pool.logged.page handle) config step.parts reached done part middle failure
            stopped ∧
          tale.result.Covers (scenario.steps.take k ++ step.parts.take done)) ∧
      ∀ rest : List Step,
        execute pool.logged config
            { scenario with steps := scenario.steps.take (k + 1) ++ rest } before =
          execute pool.logged config scenario before ∧
        runOne pool.logged config
            { scenario with steps := scenario.steps.take (k + 1) ++ rest } before =
          runOne pool.logged config scenario before) ∧
    ((∀ handle, (pool.page handle).Answers) → 1 ≤ config.timeouts.poll.toNat →
      ∃ outcome after, runOne pool.logged config scenario before = some (outcome, after)) := by
  refine ⟨runOne_unlogged pool config scenario before, ?_, ?_, ?_⟩
  · intro outcome after hended
    obtain ⟨result, failure, _, hexecuted, rfl⟩ := runOne_cases hended
    constructor
    · rw [← hexecuted.completed_iff]
      cases failure <;> simp
    · rintro result' hresult
      cases failure with
      | none =>
          cases hresult
          exact hexecuted.covers
      | some failure => cases hresult
  · intro handle installed k step reached failure stopped hprepared hstops
    constructor
    · intro outcome after hended
      obtain ⟨result, cause, hexecute, hexecuted, rfl⟩ := runOne_cases hended
      obtain ⟨rfl, done, part, middle, hparts, hcovers⟩ :=
        hexecuted.covers_stopped hprepared hstops
      obtain ⟨notes, aborted, hresult, hevents⟩ := hexecuted.told
      cases hresult
      exact ⟨rfl, _, done, part, middle, hexecute, hevents, Tale.of_consistent _ _ _, hparts,
        hcovers⟩
    · intro rest
      have hexecute := execute_replace hprepared hstops rest
      refine ⟨hexecute, ?_⟩
      rw [runOne, runOne, Run.bind_apply, Run.bind_apply, hexecute]
  · intro hanswers hpause
    exact runOne_ends (fun handle => (hanswers handle).logged handle) hpause scenario before

/-- The page of the broken visit takes the session, and the step that crashes it is the third. -/
theorem brokenVisit_stops :
    ∃ installed reached stopped,
      Prepared crashingPool.logged {} brokenVisit ⟨⟨⟨0, []⟩, 0⟩, .empty, []⟩ () installed ∧
      StopsAt (crashingPool.logged.page ()) {} brokenVisit.steps installed 2 twoRegions reached
        (.driver "target crashed") stopped := by
  let take (step : Step) := step.take (crashingPool.logged.page ()) {}
  let opened : Setting (Logged Nat Unit) :=
    ⟨⟨⟨0, [.opened ⟨1280, 800⟩ (.ok ())]⟩, 0⟩, .empty, [.started "visit"]⟩
  have hruns : (Stage.onPage ((Seed.ofSettings {}).install (crashingPool.logged.page ()))
      (brokenVisit.begin opened)).any (fun installed => installed.1.isOk &&
        ((brokenVisit.steps.take 2).forM take installed.2).any fun reached => reached.1.isOk &&
          (take twoRegions reached.2).any fun stopped =>
            failed? stopped.1 = some (.driver "target crashed")) = true := by decide +kernel
  simp only [Option.any_eq_true, Bool.and_eq_true, decide_eq_true_eq] at hruns
  obtain ⟨⟨_ | _, installed⟩, hinstalled, hok, ⟨_ | _, reached⟩, hreached, hok',
    ⟨_ | _, stopped⟩, hstopped, hfailed⟩ := hruns
  all_goals cases hok
  all_goals cases hok'
  all_goals cases hfailed
  exact ⟨installed, reached, stopped, ⟨opened, rfl, hinstalled⟩, rfl, hreached, hstopped⟩

/-- The steps of the broken visit up to the probe that crashes the page. -/
def quietSteps : List Step :=
  [.assertVisible "dock" (.css ".desktop-dock"), .checkpoint "home",
    .probeRegions [⟨"background", .point ⟨500, 500⟩, true⟩]]

/-- A visit that is cut short between two probes accounts for the steps before and for the first
probe, and one that its page does not disturb for all its steps. -/
theorem broken_visit_accounts :
    (∃ (after : Setting (Logged Nat Unit)) (tale : Tale) (done : Nat),
      runOne crashingPool.logged {} brokenVisit ⟨⟨⟨0, []⟩, 0⟩, .empty, []⟩ =
        some (.error (.driver "target crashed"), after) ∧
      after.events = [] ++ tale.events ∧ tale.Consistent ∧
      tale.result.Covers (brokenVisit.steps.take 2 ++ twoRegions.parts.take done) ∧
      tale.result.checks.map (·.name) = ["dock", "context menu: background"] ∧
      tale.result.screenshots.map (·.name) = ["home"]) ∧
    (∃ result after,
      runOne crashingPool.logged {} ⟨"visit", "", quietSteps⟩ ⟨⟨⟨0, []⟩, 0⟩, .empty, []⟩ =
        some (.ok result, after) ∧
      result.Covers quietSteps) := by
  constructor
  · obtain ⟨_, _, hstopped, hends⟩ :=
      runOne_accounts crashingPool {} brokenVisit ⟨⟨⟨0, []⟩, 0⟩, .empty, []⟩
    obtain ⟨outcome, after, hended⟩ := hends crashingPool_answers (by decide)
    obtain ⟨_, _, _, hprepared, hstops⟩ := brokenVisit_stops
    obtain ⟨rfl, tale, done, _, _, hexecute, hevents, hconsistent, _, hcovers⟩ :=
      (hstopped _ _ _ _ _ _ _ hprepared hstops).1 _ _ hended
    have hnoted : (execute crashingPool.logged {} brokenVisit ⟨⟨⟨0, []⟩, 0⟩, .empty, []⟩).any
        fun ended => ended.1.toOption.any fun executed =>
          executed.1.checks.map (·.name) = ["dock", "context menu: background"] ∧
            executed.1.screenshots.map (·.name) = ["home"] := by
      decide +kernel
    rw [hexecute, Option.any_some, Except.toOption, Option.any_some, decide_eq_true_eq] at hnoted
    exact ⟨after, tale, done, hended, hevents, hconsistent, hcovers, hnoted⟩
  · obtain ⟨_, hreturned, _, hends⟩ :=
      runOne_accounts crashingPool {} ⟨"visit", "", quietSteps⟩ ⟨⟨⟨0, []⟩, 0⟩, .empty, []⟩
    obtain ⟨outcome, after, hended⟩ := hends crashingPool_answers (by decide)
    have hok : (runOne crashingPool.logged {} ⟨"visit", "", quietSteps⟩
        ⟨⟨⟨0, []⟩, 0⟩, .empty, []⟩).any (·.1.isOk) := by decide +kernel
    rw [hended] at hok
    cases outcome with
    | error failure => cases hok
    | ok result => exact ⟨result, after, hended, (hreturned _ _ hended).2 result rfl⟩

/-- A scenario without steps, none of which can fail, is aborted all the same when its
page is refused or its session cannot be installed. -/
theorem stepless_visit_aborts :
    (runOne (Model.pool {} true) {} ⟨"visit", "", []⟩ ⟨⟨{}, 0⟩, .empty, []⟩).map (·.1) =
      some (.error (.driver "Target.createBrowserContext failed")) ∧
    (runOne ((Model.pool {} false).withFaults [⟨.install, 1, .driver "storage is disabled"⟩])
        {} ⟨"visit", "", []⟩ ⟨⟨{ inner := {} }, 0⟩, .empty, []⟩).map (·.1) =
      some (.error (.driver "storage is disabled")) ∧
    ∀ (σ : Type) (page : Page σ) installed k step reached failure stopped,
      ¬ StopsAt page {} [] installed k step reached failure stopped := by
  refine ⟨rfl, rfl, ?_⟩
  intro σ page installed k step reached failure stopped hstops
  have hstep := hstops.found
  simp at hstep

end Harness

end DesktopTrial
