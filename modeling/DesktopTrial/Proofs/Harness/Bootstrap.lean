import DesktopTrial.Proofs.Harness.Gate
import DesktopTrial.Proofs.Session.Settings

/-!
# Which configurations bootstrap a session

Validation does not look at the session that a configuration describes.  The application
accepts one whose token and whose stored user name are not blank.  Any other aborts every
scenario whose page was opened, before anything but a screenshot is asked of the page.
-/

namespace DesktopTrial

variable {σ η : Type}

/-- A scenario whose session is not valid fails before it asks the page for anything. -/
theorem Scenario.perform_of_invalid {config : Configuration} {failure : Failure}
    (hentries : (Seed.ofSettings config.session).entries = .error failure) (scenario : Scenario)
    (page : Page σ) (stage : Stage σ) :
    scenario.perform page config stage = some (.error failure, stage) := by
  have hinstall : (Seed.ofSettings config.session).install page stage.setting.moment =
      some (.error failure, stage.setting.moment) := by
    rw [Seed.install, Run.ofExcept_bind_apply, hentries]
    rfl
  simp only [Scenario.perform, Run.bind_apply, Stage.onPage, Stage.onSetting, Setting.onPage,
    Run.on, hinstall, Run.proceed_error]

namespace Harness

/-- The calls of an execution and the failure that aborted it, given how the page was opened:
either the session is installed first, or its settings are not usable and abort the scenario. -/
inductive Bootstrapped (settings : SessionSettings) :
    Except Failure η → List Exchange → Option Failure → Prop where
  | refused {failure : Failure} : Bootstrapped settings (.error failure) [] (some failure)
  | installed {handle : η} {entries : Storage} {answer : Except Failure Unit}
      {later : List Exchange} {failure : Option Failure} :
      settings.Usable → (Seed.ofSettings settings).entries = .ok entries →
      Bootstrapped settings (.ok handle) (⟨.install entries, some answer⟩ :: later) failure
  | unusable {handle : η} {made : List Exchange} :
      ¬settings.Usable → made.map (·.call) = [.screenshot, .close] →
      Bootstrapped settings (.ok handle) made (some (.bootstrap settings.complaint))

variable {pool : Pool σ η} {config : Configuration} {scenario : Scenario}
  {before after : Setting (Transcribed σ)}

theorem opened_transcribed {viewport : Size} {event : Event} {outcome : Except Failure η}
    (hended : openPage pool.transcribed viewport (before.telling event) =
      some (outcome, after)) :
    (pool.open before.moment.page.inner viewport).1 = outcome := by
  rw [openPage, Pool.transcribed] at hended
  cases hended
  rfl

/-- From the moment the page is handed out, a usable session is installed first. -/
theorem performed_installed {handle : η} {opened : Setting (Transcribed σ)}
    {stage : Stage (Transcribed σ)} {outcome : Except Failure Unit} {entries : Storage}
    (hentries : (Seed.ofSettings config.session).entries = .ok entries)
    (hopen : openPage pool.transcribed config.viewport
      (before.telling (.started scenario.name)) = some (.ok handle, opened))
    (hperform : scenario.perform (pool.transcribed.page handle) config (scenario.begin opened) =
      some (outcome, stage)) :
    ∃ answer later, stage.setting.transcript =
      before.transcript ++ ⟨.install entries, some answer⟩ :: later := by
  obtain ⟨own, htranscript, hgate⟩ := performed_gated hopen hperform
  generalize (!outcome.isOk) = aborted at hgate
  cases hgate with
  | invalid hinvalid => cases hentries.symm.trans hinvalid
  | refused hinstalled =>
      cases hentries.symm.trans hinstalled
      exact ⟨_, _, htranscript⟩
  | installed hinstalled =>
      cases hentries.symm.trans hinstalled
      exact ⟨_, _, htranscript⟩

/-- A session that is not usable is never installed. -/
theorem performed_unusable {handle : η} {opened : Setting (Transcribed σ)}
    {stage : Stage (Transcribed σ)} {outcome : Except Failure Unit} {failure : Failure}
    (hentries : (Seed.ofSettings config.session).entries = .error failure)
    (hopen : openPage pool.transcribed config.viewport
      (before.telling (.started scenario.name)) = some (.ok handle, opened))
    (hperform : scenario.perform (pool.transcribed.page handle) config (scenario.begin opened) =
      some (outcome, stage)) :
    outcome = .error failure ∧ stage.setting.transcript = before.transcript := by
  rw [Scenario.perform_of_invalid hentries] at hperform
  cases hperform
  have htranscript := openPage_transcribed hopen
  exact ⟨rfl, htranscript⟩

theorem Executed.bootstrapped {result : ScenarioResult} {failure : Option Failure}
    (hexecuted : Executed pool.transcribed config scenario before (result, failure) after) :
    ∃ made, after.transcript = before.transcript ++ made ∧
      Bootstrapped config.session (pool.open before.moment.page.inner config.viewport).1 made
        failure := by
  cases hexecuted with
  | refused hopen _ =>
      have htranscript := openPage_transcribed hopen
      rw [opened_transcribed hopen]
      exact ⟨[], htranscript.trans (List.append_nil _).symm, .refused⟩
  | @completed handle opened stage moment released _ hopen hperform hclose _ =>
      rw [opened_transcribed hopen]
      have hclosed := Run.ask_transcribed hclose
      cases hentries : (Seed.ofSettings config.session).entries with
      | error failure =>
          obtain ⟨himpossible, -⟩ := performed_unusable hentries hopen hperform
          cases himpossible
      | ok entries =>
          obtain ⟨answer, later, hinstalled⟩ := performed_installed hentries hopen hperform
          refine ⟨⟨.install entries, some answer⟩ :: later ++ [⟨.close, some released⟩], ?_,
            .installed (Seed.entries_ofSettings_eq_ok_iff.mp ⟨entries, hentries⟩) hentries⟩
          calc
            moment.transcript = stage.setting.transcript ++ [⟨.close, some released⟩] := hclosed
            _ = _ := by rw [hinstalled, List.append_assoc]
  | @aborted handle opened stage cause shot shown moment released _ hopen hperform hcapture
      hclose _ =>
      rw [opened_transcribed hopen]
      obtain ⟨image, hshown⟩ := shown_transcribed hcapture hclose
      cases hentries : (Seed.ofSettings config.session).entries with
      | error failure =>
          obtain ⟨hcause, hunasked⟩ := performed_unusable hentries hopen hperform
          obtain ⟨hunusable, rfl⟩ := Seed.entries_ofSettings_eq_error_iff.mp hentries
          cases hcause
          rw [hunasked] at hshown
          exact ⟨_, hshown, .unusable hunusable rfl⟩
      | ok entries =>
          obtain ⟨answer, later, hinstalled⟩ := performed_installed hentries hopen hperform
          rw [hinstalled, List.append_assoc, List.cons_append] at hshown
          exact ⟨_, hshown,
            .installed (Seed.entries_ofSettings_eq_ok_iff.mp ⟨entries, hentries⟩) hentries⟩

/-- Validation does not look at the session, and what is left is exact: the settings of a
session make entries of the storage just when they are usable, and fail otherwise with what is
wrong about them.  So where they are usable, every scenario whose page was opened installs the
session first, and where they are not, every one of them is aborted for that reason, and
nothing is asked of its page but a screenshot and its closing. -/
theorem usable_session_bootstraps (pool : Pool σ η) (config : Configuration) :
    (∀ session : SessionSettings,
      ({ config with session } : Configuration).validate = config.validate) ∧
    ((∃ entries, (Seed.ofSettings config.session).entries = .ok entries) ↔
      config.session.Usable) ∧
    (∀ failure, (Seed.ofSettings config.session).entries = .error failure ↔
      ¬config.session.Usable ∧ failure = .bootstrap config.session.complaint) ∧
    ∀ scenario : Scenario,
      (∀ before : Setting (Transcribed σ),
        execute pool config scenario before.untranscribed =
          (execute pool.transcribed config scenario before).map fun ended =>
            (ended.1, ended.2.untranscribed)) ∧
      ∀ (before after : Setting (Transcribed σ))
        (outcome : Except Failure (ScenarioResult × Option Failure)),
        execute pool.transcribed config scenario before = some (outcome, after) →
        ∃ result failure made, outcome = .ok (result, failure) ∧
          after.transcript = before.transcript ++ made ∧
          Bootstrapped config.session (pool.open before.moment.page.inner config.viewport).1 made
            failure := by
  refine ⟨fun _ => rfl, Seed.entries_ofSettings_eq_ok_iff,
    fun _ => Seed.entries_ofSettings_eq_error_iff, fun scenario =>
      ⟨execute_untranscribed pool config scenario, ?_⟩⟩
  intro before after outcome hended
  obtain ⟨⟨result, failure⟩, houtcome, hexecuted⟩ := execute_cases hended
  obtain ⟨made, htranscript, hbootstrapped⟩ := hexecuted.bootstrapped
  exact ⟨result, failure, made, houtcome, htranscript, hbootstrapped⟩

def tokenlessConfiguration : Configuration := { session := { token := "" } }

def plainVisit : Scenario := ⟨"visit", "", []⟩

/-- A visit with the standard configuration begins with the session, and one without a token
comes to nothing but its screenshot. -/
theorem visits_bootstrapped :
    (∃ result failure after entries answer later,
      execute (Model.pool {} false).transcribed {} plainVisit ⟨⟨⟨{}, []⟩, 0⟩, .empty, []⟩ =
        some (.ok (result, failure), after) ∧
      after.transcript = ⟨.install entries, some answer⟩ :: later) ∧
    ∃ result after, execute (Model.pool {} false).transcribed tokenlessConfiguration plainVisit
        ⟨⟨⟨{}, []⟩, 0⟩, .empty, []⟩ =
      some (.ok (result, some (.bootstrap "auth token is empty")), after) ∧
      after.transcript.map (·.call) = [.screenshot, .close] := by
  constructor
  · obtain ⟨-, hentries, -, hruns⟩ := usable_session_bootstraps (Model.pool {} false) {}
    have husable := hentries.mp ⟨_, rfl⟩
    obtain ⟨⟨outcome, after⟩, hended⟩ := Option.isSome_iff_exists.mp
      (rfl : (execute (Model.pool {} false).transcribed {} plainVisit
        ⟨⟨⟨{}, []⟩, 0⟩, .empty, []⟩).isSome = true)
    obtain ⟨result, failure, made, rfl, htranscript, hmade⟩ := (hruns plainVisit).2 _ _ _ hended
    cases hmade with
    | installed _ _ => exact ⟨result, failure, after, _, _, _, hended, htranscript⟩
    | unusable hunusable _ => exact absurd husable hunusable
  · obtain ⟨-, -, -, hruns⟩ :=
      usable_session_bootstraps (Model.pool {} false) tokenlessConfiguration
    have hunusable : ¬tokenlessConfiguration.session.Usable := fun husable =>
      Bool.false_ne_true (husable.token.symm.trans rfl)
    obtain ⟨⟨outcome, after⟩, hended⟩ := Option.isSome_iff_exists.mp
      (rfl : (execute (Model.pool {} false).transcribed tokenlessConfiguration plainVisit
        ⟨⟨⟨{}, []⟩, 0⟩, .empty, []⟩).isSome = true)
    obtain ⟨result, failure, made, rfl, htranscript, hmade⟩ := (hruns plainVisit).2 _ _ _ hended
    cases hmade with
    | installed husable _ => exact absurd husable hunusable
    | unusable _ hcalls =>
        refine ⟨result, after, hended, ?_⟩
        rw [htranscript]
        exact hcalls

/-- The standard configuration with a number in place of the user's name. -/
def numberedConfiguration : Configuration :=
  { session := { userFields := Dictionary.ofList [("username", .integer 7)] } }

/-- Configurations without a usable session pass validation, and even a scenario that takes no
step is aborted under them. -/
theorem valid_without_session :
    tokenlessConfiguration.validate = .ok () ∧
    (Seed.ofSettings tokenlessConfiguration.session).entries =
      .error (.bootstrap "auth token is empty") ∧
    (runOne (Model.pool {} false) tokenlessConfiguration plainVisit
        ⟨⟨{}, 0⟩, .empty, []⟩).map (·.1) = some (.error (.bootstrap "auth token is empty")) ∧
    numberedConfiguration.validate = .ok () ∧
    (Seed.ofSettings numberedConfiguration.session).entries =
      .error (.bootstrap "user has no username") ∧
    (runOne (Model.pool {} false) numberedConfiguration plainVisit
        ⟨⟨{}, 0⟩, .empty, []⟩).map (·.1) =
      some (.error (.bootstrap "user has no username")) := by
  have hvalid (session : SessionSettings) : ({ session } : Configuration).validate = .ok () := by
    have hsame : ({ session } : Configuration).fault? = ({} : Configuration).fault? := rfl
    have hnone : ({} : Configuration).fault? = none := by decide +kernel
    rw [Configuration.validate, hsame, hnone]
  exact ⟨hvalid _, rfl, rfl, hvalid _, rfl, rfl⟩

end Harness

end DesktopTrial
