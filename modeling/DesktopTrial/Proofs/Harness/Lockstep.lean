import DesktopTrial.Harness
import DesktopTrial.Proofs.Scenario.Lockstep
import DesktopTrial.Proofs.Scenario.Setting

/-!
# The harness in lockstep

On pools that open the same handles and whose pages answer alike, the harness tells
the same events, leaves the same files and gives the same report.
-/

namespace DesktopTrial

variable {σ τ η α : Type} {hangs : Prop} {R : Moment σ → Moment τ → Prop}

/-- Opening a page changes the state of the pool and takes no time. -/
structure Pool.Lockstep (hangs : Prop) (R : Moment σ → Moment τ → Prop) (left : Pool σ η)
    (right : Pool τ η) : Prop where
  handle : ∀ m n viewport, R m n →
    (left.open m.page viewport).1 = (right.open n.page viewport).1
  state : ∀ m n viewport, R m n →
    R ⟨(left.open m.page viewport).2, m.clock⟩ ⟨(right.open n.page viewport).2, n.clock⟩
  page : ∀ handle,
    Page.Lockstep hangs (fun _ => True) R (left.page handle) (right.page handle)

namespace Harness

def artifacts (config : Configuration) (scenario : Scenario) : List String :=
  failurePath config scenario.name :: scenario.artifacts config

section OnePage

variable {left : Page σ} {right : Page τ} {paths : String → Prop}
  {S : Setting σ → Setting τ → Prop} (hsettings : Setting.Lockstep hangs R paths S)
  (hpages : Page.Lockstep hangs (fun _ => True) R left right) (config : Configuration)
include hsettings hpages

theorem captureFailure_alike (name : String) (hpath : paths (failurePath config name)) :
    Run.Lockstep hangs S (captureFailure left config name) (captureFailure right config name) := by
  apply (hsettings.capture hpages trivial hpath).attempt.bind
  intro attempted
  cases attempted with
  | error failure => exact .pure _
  | ok value => exact .pure _

variable (hpatience : hangs ∨ 1 ≤ config.timeouts.patience.interval) (scenario : Scenario)
  (hpaths : ∀ path ∈ artifacts config scenario, paths path)
include hpatience hpaths

theorem perform_alike :
    Run.Lockstep hangs S (perform left config scenario) (perform right config scenario) := by
  intro s t hrelated
  have halike := scenario.perform_alike hsettings hpages (fun _ _ => trivial) config hpatience
    (fun path hpath => hpaths path (List.mem_cons_of_mem _ hpath))
    ⟨s, false, { scenario := scenario.name }⟩ ⟨t, false, { scenario := scenario.name }⟩
    ⟨hrelated, rfl, rfl⟩
  rw [perform, perform, ExceptT.run, ExceptT.run]
  generalize scenario.perform left config _ = x at halike ⊢
  generalize scenario.perform right config _ = y at halike ⊢
  cases halike with
  | endless hhangs => exact .endless hhangs
  | @ended outcome stage stage' hstages =>
      cases outcome with
      | error failure =>
          simp only [hstages.result]
          exact .ended _ hstages.setting
      | ok value =>
          simp only [hstages.result]
          exact .ended _ hstages.setting

theorem performOn_alike :
    Run.Lockstep hangs S (performOn left config scenario) (performOn right config scenario) := by
  apply (perform_alike hsettings hpages config hpatience scenario hpaths).bind
  intro performed
  obtain ⟨result, failure⟩ := performed
  cases failure with
  | none => exact .pure _
  | some failure =>
      apply (captureFailure_alike hsettings hpages config _ (hpaths _ List.mem_cons_self)).bind
      intro shot
      exact (hsettings.tell _).bind fun _ => .pure _

end OnePage

/-! ## Executions -/

section Opened

variable {θ : Type} {left : Pool σ η} {right : Pool τ θ} {config : Configuration}
  {scenario : Scenario} {paths : String → Prop} {S : Setting σ → Setting τ → Prop}
  {s opened : Setting σ} {t opened' : Setting τ}
  (hsettings : Setting.Lockstep hangs R paths S) (hrelated : S opened opened')
include hsettings hrelated

theorem execute_alike_of_refused {failure : Failure}
    (hleft : openPage left config.viewport (s.telling (.started scenario.name)) =
      some (.error failure, opened))
    (hright : openPage right config.viewport (t.telling (.started scenario.name)) =
      some (.error failure, opened')) :
    Run.Alike hangs S (execute left config scenario s) (execute right config scenario t) := by
  rw [execute, execute, Setting.tell_bind, Setting.tell_bind, Run.bind_apply, Run.bind_apply,
    Run.attempt, Run.attempt, hleft, hright]
  exact ((hsettings.tell _).bind fun _ => (hsettings.tell _).bind fun _ => .pure _) _ _ hrelated

/-- Once pages are opened that answer alike, which handles they have does not matter. -/
theorem execute_alike_of_opened {handle : η} {handle' : θ}
    (hpages : Page.Lockstep hangs (fun _ => True) R (left.page handle) (right.page handle'))
    (hpatience : hangs ∨ 1 ≤ config.timeouts.patience.interval)
    (hpaths : ∀ path ∈ artifacts config scenario, paths path)
    (hleft : openPage left config.viewport (s.telling (.started scenario.name)) =
      some (.ok handle, opened))
    (hright : openPage right config.viewport (t.telling (.started scenario.name)) =
      some (.ok handle', opened')) :
    Run.Alike hangs S (execute left config scenario s) (execute right config scenario t) := by
  rw [execute, execute, Setting.tell_bind, Setting.tell_bind, Run.bind_apply, Run.bind_apply,
    Run.attempt, Run.attempt, hleft, hright]
  refine Run.Lockstep.bind ?_ ?_ _ _ hrelated
  · exact performOn_alike hsettings hpages config hpatience scenario hpaths
  · intro performed
    apply (hsettings.onPage (hpages.ask trivial)).attempt.bind
    intro _
    exact (hsettings.tell _).bind fun _ => .pure _

end Opened

variable {left : Pool σ η} {right : Pool τ η} (hpools : Pool.Lockstep hangs R left right)
include hpools

theorem openPage_alike (viewport : Size) :
    Run.Lockstep hangs (Setting.Alike R) (openPage left viewport)
      (openPage right viewport) := by
  intro s t hsettings
  have hhandle := hpools.handle _ _ viewport hsettings.moment
  have hstate := hpools.state _ _ viewport hsettings.moment
  rw [openPage, openPage]
  generalize left.open s.moment.page viewport = x at hhandle hstate ⊢
  generalize right.open t.moment.page viewport = y at hhandle hstate ⊢
  obtain ⟨opened, after⟩ := x
  obtain ⟨_, after'⟩ := y
  cases hhandle
  exact .ended _ ⟨hstate, hsettings.files, hsettings.events⟩

variable (config : Configuration)
  (hpatience : hangs ∨ 1 ≤ config.timeouts.patience.interval)
include hpatience

theorem execute_alike (scenario : Scenario) :
    Run.Lockstep hangs (Setting.Alike R) (execute left config scenario)
      (execute right config scenario) := by
  intro s t halike
  have hsettings : Setting.Lockstep hangs R (fun _ => True) (Setting.Alike R) :=
    Setting.Alike.lockstep
  have hopens := openPage_alike hpools config.viewport _ _
    (hsettings.telling (.started scenario.name) halike)
  generalize hleft : openPage left config.viewport _ = x at hopens
  generalize hright : openPage right config.viewport _ = y at hopens
  cases hopens with
  | endless _ => cases hleft
  | @ended outcome opened opened' hopened =>
      cases outcome with
      | error failure =>
          exact execute_alike_of_refused hsettings hopened hleft hright
      | ok handle =>
          exact execute_alike_of_opened hsettings hopened (hpools.page handle) hpatience
            (fun _ _ => trivial) hleft hright

theorem runOne_alike (scenario : Scenario) :
    Run.Lockstep hangs (Setting.Alike R) (runOne left config scenario)
      (runOne right config scenario) := by
  apply (execute_alike hpools config hpatience scenario).bind
  intro executed
  obtain ⟨result, failure⟩ := executed
  cases failure with
  | none => exact .pure _
  | some failure => exact .throw _

theorem runAll_alike (scenarios : List Scenario) :
    Run.Lockstep hangs (Setting.Alike R) (runAll left config scenarios)
      (runAll right config scenarios) := by
  refine Run.Lockstep.bind (.mapM fun scenario _ => ?_) fun results => .pure _
  exact (execute_alike hpools config hpatience scenario).bind fun _ => .pure _

end Harness

/-! ## Runs that end -/

/-- The page answers every call in the end, be it with a failure. -/
def Page.Answers (page : Page σ) : Prop :=
  ∀ s call, ∃ latency result after, page.reply s call = .answered latency result after

theorem Page.Answers.lockstep {page : Page σ} (hanswers : page.Answers) :
    Page.Lockstep False (fun _ => True) Eq page page where
  sleep := by
    rintro m _ duration rfl
    rfl
  reply := by
    rintro m _ call - rfl
    obtain ⟨latency, result, after, hreply⟩ := hanswers m.page call
    rw [hreply]
    exact .answered rfl
  abandon := by
    rintro m _ locator duration - rfl
    rfl

theorem Setting.Alike.refl (setting : Setting σ) : Setting.Alike Eq setting setting :=
  ⟨rfl, rfl, rfl⟩

theorem Pool.lockstep_of_answers {pool : Pool σ η}
    (hanswers : ∀ handle, (pool.page handle).Answers) : Pool.Lockstep False Eq pool pool where
  handle := by
    rintro m _ viewport rfl
    rfl
  state := by
    rintro m _ viewport rfl
    rfl
  page handle := (hanswers handle).lockstep

section Ends

variable {pool : Pool σ η} (hanswers : ∀ handle, (pool.page handle).Answers)
  {config : Configuration} (hpause : 1 ≤ config.timeouts.patience.interval)
include hanswers hpause

/-- On pages that answer, and with a pause between the probes of a wait, the harness
comes to an end. -/
theorem Harness.runAll_ends (scenarios : List Scenario) (before : Setting σ) :
    ∃ outcome after, runAll pool config scenarios before = some (outcome, after) :=
  (runAll_alike (Pool.lockstep_of_answers hanswers) config (.inr hpause) scenarios).ends
    (.refl before)

theorem Harness.runOne_ends (scenario : Scenario) (before : Setting σ) :
    ∃ outcome after, runOne pool config scenario before = some (outcome, after) :=
  (runOne_alike (Pool.lockstep_of_answers hanswers) config (.inr hpause) scenario).ends
    (.refl before)

end Ends

/-- A pool whose pages take a session and fail every other call at once. -/
def Harness.brokenPool : Pool Unit Unit where
  «open» _ _ := (.ok (), ())
  page _ :=
    { reply := fun _ call =>
        match call with
        | .install _ => .answered 0 (.ok ()) ()
        | _ => .answered 0 (.error (.driver "target crashed")) ()
      abandon := fun _ _ => () }

theorem Harness.brokenPool_answers (handle : Unit) : (brokenPool.page handle).Answers := by
  intro s call
  cases call <;> exact ⟨_, _, _, rfl⟩

end DesktopTrial
