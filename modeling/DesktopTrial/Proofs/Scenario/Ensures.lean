import DesktopTrial.Proofs.Files.Writes
import DesktopTrial.Proofs.Run.Ensures
import DesktopTrial.Proofs.Scenario.Notes

/-!
# Steps that end well

What is ensured of the work on a page is ensured of the steps that do it, together with what
they record: the verdicts of the checks and the screenshots.  The files have to take the
screenshots.
-/

namespace DesktopTrial

variable {σ α : Type} {P Q : Moment σ → Prop} {paths : List String} {page : Page σ}
  {name path : String}

/-! ## Settings -/

namespace Setting

/-- The page is as described, and the files take writes to these paths. -/
structure Meets (P : Moment σ → Prop) (paths : List String) (setting : Setting σ) : Prop where
  moment : P setting.moment
  files : setting.files.Takes paths

theorem ensures_onPage {Q : α → Moment σ → Prop} {run : Run (Moment σ) α}
    (hrun : Run.Ensures P run Q) :
    Run.Ensures (Meets P paths) (onPage run) fun value => Meets (Q value) paths :=
  hrun.on (fun _ hbefore => hbefore.moment) fun _ _ _ hbefore hchanged =>
    ⟨hchanged, hbefore.files⟩

/-- A screenshot that the page takes is written where the files take it. -/
theorem ensures_capture (hshot : Run.Ensures P (Run.ask page .screenshot) fun _ => Q)
    (hpath : path ∈ paths) :
    Run.Ensures (Meets P paths) (capture page path) fun _ => Meets Q paths := by
  refine (ensures_onPage hshot).bind fun image setting hsetting => ?_
  obtain ⟨files, hsaved, htakes⟩ := hsetting.files.save hpath image
  refine ⟨⟨⟩, { setting with files }, ?_, hsetting.moment, htakes⟩
  rw [onFiles, hsaved]

end Setting

/-! ## Stages -/

def CheckRecord.verdict (check : CheckRecord) : String × Bool := (check.name, check.passed)

namespace Stage

/-- The setting is as described, and these verdicts and screenshots were recorded. -/
structure Meets (P : Moment σ → Prop) (paths : List String) (verdicts : List (String × Bool))
    (shots : List Checkpoint) (stage : Stage σ) : Prop where
  setting : stage.setting.Meets P paths
  verdicts : stage.result.checks.map CheckRecord.verdict = verdicts
  screenshots : stage.result.screenshots = shots

variable {verdicts : List (String × Bool)} {shots : List Checkpoint}

theorem ensures_onSetting {Q : α → Moment σ → Prop} {run : Run (Setting σ) α}
    (hrun : Run.Ensures (Setting.Meets P paths) run fun value => Setting.Meets (Q value) paths) :
    Run.Ensures (Meets P paths verdicts shots) (onSetting run) fun value =>
      Meets (Q value) paths verdicts shots :=
  hrun.on (fun _ hbefore => hbefore.setting) fun _ _ _ hbefore hchanged =>
    ⟨hchanged, hbefore.verdicts, hbefore.screenshots⟩

theorem ensures_onPage {Q : α → Moment σ → Prop} {run : Run (Moment σ) α}
    (hrun : Run.Ensures P run Q) :
    Run.Ensures (Meets P paths verdicts shots) (onPage run) fun value =>
      Meets (Q value) paths verdicts shots :=
  ensures_onSetting (Setting.ensures_onPage hrun)

theorem record_apply (name : String) (outcome : Outcome) (stage : Stage σ) :
    record name outcome stage =
      some (.ok (), stage.noting (.check ⟨name, outcome.passed, outcome.detail⟩)) := rfl

theorem ensures_checkAs {check : Run (Moment σ) Outcome} {passed : Bool}
    (hcheck : Run.Ensures P check fun outcome moment => outcome.passed = passed ∧ Q moment) :
    Run.Ensures (Meets P paths verdicts shots) (checkAs name check) fun _ =>
      Meets Q paths (verdicts ++ [(name, passed)]) shots := by
  refine (ensures_onPage hcheck).bind fun outcome stage hstage => ?_
  obtain ⟨⟨⟨hpassed, hmoment⟩, hfiles⟩, hverdicts, hscreenshots⟩ := hstage
  refine ⟨⟨⟩, _, record_apply name outcome stage, ⟨hmoment, hfiles⟩, ?_, hscreenshots⟩
  rw [noting, ScenarioResult.add, List.map_append, hverdicts, ← hpassed]
  rfl

theorem ensures_checkpoint (hshot : Run.Ensures P (Run.ask page .screenshot) fun _ => Q)
    (hpath : path ∈ paths) :
    Run.Ensures (Meets P paths verdicts shots) (checkpoint page name path) fun _ =>
      Meets Q paths verdicts (shots ++ [⟨name, path⟩]) := by
  have hcapture : Run.Ensures (Meets P paths verdicts shots)
      (onSetting (Setting.capture page path)) fun _ => Meets Q paths verdicts shots :=
    ensures_onSetting (Setting.ensures_capture hshot hpath)
  refine hcapture.bind fun _ stage hstage => ?_
  refine ⟨⟨⟩, stage.noting (.checkpoint ⟨name, path⟩), rfl,
    ⟨hstage.setting.moment, hstage.setting.files⟩, hstage.verdicts, ?_⟩
  rw [noting, ScenarioResult.add, hstage.screenshots]

/-- A session that can be confirmed is confirmed, whether or not that was done before. -/
theorem ensures_confirmOnce {seed : Seed}
    (hverify : Run.Ensures P (seed.verify page) fun _ => P) :
    Run.Ensures (Meets P paths verdicts shots) (confirmOnce page seed) fun _ =>
      Meets P paths verdicts shots := by
  intro stage hstage
  rw [confirmOnce, Run.bind_apply, Run.get_apply, Run.proceed_ok]
  cases stage.confirmed with
  | true => exact ⟨⟨⟩, stage, rfl, hstage⟩
  | false =>
      refine (ensures_onPage hverify).bind (fun _ after hafter => ?_) stage hstage
      exact ⟨⟨⟩, { after with confirmed := true }, rfl, hafter.setting, hafter.verdicts,
        hafter.screenshots⟩

end Stage

/-! ## Steps -/

namespace Step

variable {config : Configuration} {verdicts : List (String × Bool)} {shots : List Checkpoint}

theorem ensures_navigate {R : Moment σ → Prop} {route : String}
    (hnavigate : Run.Ensures P (Run.ask page (.navigate (config.url route))) fun _ => Q)
    (hverify : Run.Ensures Q ((Seed.ofSettings config.session).verify page) fun _ => Q)
    (hpresents : ∀ moment, Q moment → R moment) :
    Run.Ensures (Stage.Meets P paths verdicts shots) ((navigate route).take page config)
      fun _ => Stage.Meets R paths verdicts shots := by
  have htaken : Run.Ensures (Stage.Meets P paths verdicts shots)
      ((navigate route).take page config) fun _ => Stage.Meets Q paths verdicts shots :=
    (Stage.ensures_onPage hnavigate).bind fun _ => Stage.ensures_confirmOnce hverify
  exact htaken.imp (fun _ hbefore => hbefore) fun _ _ hafter =>
    ⟨⟨hpresents _ hafter.setting.moment, hafter.setting.files⟩, hafter.verdicts,
      hafter.screenshots⟩

theorem ensures_awaitReady {condition : Condition}
    (hwait : Run.Ensures P (Readiness.awaitReady page condition config.timeouts.patience)
      fun _ => Q) :
    Run.Ensures (Stage.Meets P paths verdicts shots) ((awaitReady condition).take page config)
      fun _ => Stage.Meets Q paths verdicts shots :=
  (Stage.ensures_onPage hwait).bind fun _ =>
    .pure (Q := fun _ => Stage.Meets Q paths verdicts shots) _

/-- A click waits for its target and then clicks the center of its box. -/
theorem ensures_click {R : Moment σ → Prop} {target : Locator} {box : Box}
    (hwait : Run.Ensures P (Readiness.awaitVisible page target config.timeouts.patience)
      fun value moment => value = box ∧ Q moment)
    (hclick : Run.Ensures Q (Run.ask page (.click box.center .primary)) fun _ => R) :
    Run.Ensures (Stage.Meets P paths verdicts shots) ((click target).take page config)
      fun _ => Stage.Meets R paths verdicts shots := by
  refine Stage.ensures_onPage (hwait.bind fun value moment hmoment => ?_)
  obtain ⟨rfl, hmoment⟩ := hmoment
  exact hclick moment hmoment

theorem ensures_settle
    (hlater : ∀ moment : Moment σ, P moment → ∀ clock, P ⟨moment.page, clock⟩) :
    Run.Ensures (Stage.Meets P paths verdicts shots) (settle.take page config)
      fun _ => Stage.Meets P paths verdicts shots :=
  Stage.ensures_onPage (.sleep fun moment hmoment => hlater moment hmoment _)

end Step

end DesktopTrial
