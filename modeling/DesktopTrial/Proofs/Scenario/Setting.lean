import DesktopTrial.Proofs.Run.Laws
import DesktopTrial.Scenario.Runner

/-!
# Work on settings and stages

Each way of working on a setting or a stage changes one part of it and leaves the
others.
-/

namespace DesktopTrial

variable {σ α : Type}

namespace Setting

variable {before after : Setting σ}

def telling (event : Event) (setting : Setting σ) : Setting σ :=
  { setting with events := setting.events ++ [event] }

@[simp]
theorem telling_moment (event : Event) (setting : Setting σ) :
    (setting.telling event).moment = setting.moment := rfl

@[simp]
theorem telling_events (event : Event) (setting : Setting σ) :
    (setting.telling event).events = setting.events ++ [event] := rfl

theorem tell_bind (event : Event) (next : Unit → Run (Setting σ) α) (setting : Setting σ) :
    (tell event >>= next) setting = next () (setting.telling event) := rfl

theorem onPage_eq_some {run : Run (Moment σ) α} {outcome : Except Failure α}
    (hended : onPage run before = some (outcome, after)) :
    ∃ moment, run before.moment = some (outcome, moment) ∧ after = { before with moment } :=
  Run.on_eq_some hended

theorem onFiles_eq_some {work : Files.Work α} {outcome : Except Failure α}
    (hended : onFiles work before = some (outcome, after)) :
    ∃ files, after = { before with files } := by
  rw [onFiles] at hended
  generalize work before.files = worked at hended
  obtain ⟨result, files⟩ := worked
  cases result with
  | error e =>
      cases hended
      exact ⟨files, rfl⟩
  | ok value =>
      cases hended
      exact ⟨files, rfl⟩

/-- A screenshot asks the page once and then touches files only. -/
theorem capture_eq_some {page : Page σ} {path : String} {outcome : Except Failure Unit}
    (hended : capture page path before = some (outcome, after)) :
    ∃ image moment files, Run.ask page .screenshot before.moment = some (image, moment) ∧
      after = { before with moment, files } := by
  obtain ⟨_, _, hfailed, hoverall⟩ | ⟨image, middle, hanswered, hsaved⟩ :=
    Run.bind_eq_some hended
  · obtain ⟨moment, hasked, hafter⟩ := onPage_eq_some hfailed
    cases hoverall
    exact ⟨_, moment, before.files, hasked, hafter⟩
  · obtain ⟨moment, hasked, hmiddle⟩ := onPage_eq_some hanswered
    obtain ⟨files, hafter⟩ := onFiles_eq_some hsaved
    rw [hmiddle] at hafter
    exact ⟨_, moment, files, hasked, hafter⟩

end Setting

namespace Stage

variable {before after : Stage σ} {outcome : Except Failure α}

theorem onSetting_eq_some {run : Run (Setting σ) α}
    (hended : onSetting run before = some (outcome, after)) :
    ∃ setting, run before.setting = some (outcome, setting) ∧ after = { before with setting } :=
  Run.on_eq_some hended

theorem onPage_eq_some {run : Run (Moment σ) α}
    (hended : onPage run before = some (outcome, after)) :
    ∃ moment, run before.setting.moment = some (outcome, moment) ∧
      after = { before with setting := { before.setting with moment } } := by
  obtain ⟨setting, honSetting, rfl⟩ := onSetting_eq_some hended
  obtain ⟨moment, hrun, rfl⟩ := Setting.onPage_eq_some honSetting
  exact ⟨moment, hrun, rfl⟩

end Stage

end DesktopTrial
