import DesktopTrial.Proofs.Harness.Execution
import DesktopTrial.Proofs.Harness.Lockstep
import DesktopTrial.Proofs.Model.Pool
import DesktopTrial.Proofs.Scenario.Ensures

/-!
# Scenarios that come to their end on a model pool

What a scenario comes to on a model page of its own it comes to on a page of a pool, since
that page is in the same state all along.  A scenario that is performed to its end is not
aborted, and its result is what it recorded.
-/

namespace DesktopTrial

variable {σ η : Type}

/-! ## Scenarios that were performed to their end -/

namespace Harness

variable {pool : Pool σ η} {config : Configuration} {scenario : Scenario} {handle : η}
  {before opened : Setting σ} {stage : Stage σ} {moment : Moment σ}
  {released : Except Failure Unit}

theorem performOn_of_performed {page : Page σ}
    (hperform : scenario.perform page config (scenario.begin opened) = some (.ok (), stage)) :
    performOn page config scenario opened = some (.ok (stage.result, none), stage.setting) := by
  have hperformed : perform page config scenario opened =
      some (.ok (stage.result, none), stage.setting) := by
    rw [Scenario.begin] at hperform
    rw [perform, ExceptT.run, hperform]
  rw [performOn, Run.bind_apply, hperformed]
  rfl

/-- A scenario that was performed to its end gives what it recorded. -/
theorem runOne_of_performed
    (hopen : openPage pool config.viewport (before.telling (.started scenario.name)) =
      some (.ok handle, opened))
    (hperform : scenario.perform (pool.page handle) config (scenario.begin opened) =
      some (.ok (), stage))
    (hclose : Run.ask (pool.page handle) .close stage.setting.moment = some (released, moment)) :
    ∃ after, runOne pool config scenario before =
      some (.ok { stage.result with error := none }, after) := by
  have hattempt : Run.attempt (openPage pool config.viewport)
      (before.telling (.started scenario.name)) = some (.ok (.ok handle), opened) := by
    rw [Run.attempt, hopen]
  have hreleased : Run.attempt (Setting.onPage (Run.ask (pool.page handle) .close))
      stage.setting = some (.ok released, { stage.setting with moment }) := by
    rw [Run.attempt, Setting.onPage, Run.on, hclose]
  refine ⟨Setting.telling (.finished { stage.result with error := none })
    { stage.setting with moment }, ?_⟩
  rw [runOne, Run.bind_apply, execute, Setting.tell_bind, Run.bind_apply, hattempt]
  simp only [Run.proceed_ok]
  rw [Run.bind_apply, performOn_of_performed hperform, Run.proceed_ok, Run.bind_apply, hreleased]
  rfl

end Harness

/-! ## Pages of a pool and pages on their own -/

namespace Model

variable {app : App} {config : Configuration} {scenario : Scenario} {handle : Nat}

/-- A page of a pool is in the state of a page on its own. -/
def Mirrors (handle : Nat) (m : Moment PoolState) (n : Moment PageState) : Prop :=
  m.page.pages[handle]? = some n.page

theorem Mirrors.update {m : Moment PoolState} {n : Moment PageState}
    (hmirrors : Mirrors handle m n) (duration : Nat) (after : PageState) :
    Mirrors handle (m.later duration (m.page.update handle n.page after))
      (n.later duration after) := by
  rw [Mirrors, Moment.later, PoolState.update_pages hmirrors, if_pos rfl]
  rfl

theorem pageOf_mirrors (app : App) (handle : Nat) :
    Page.Lockstep True (fun _ => True) (Mirrors handle) (pageOf app handle) (page app) where
  sleep m n duration hmirrors := hmirrors
  reply := by
    rintro m n call - hmirrors
    rw [pageOf_reply hmirrors]
    cases (page app).reply n.page call with
    | answered latency result after => exact .answered (hmirrors.update latency after)
    | pending => exact .pending trivial
    | stuck latency => exact .stuck latency trivial
  abandon := by
    rintro m n locator duration - hmirrors
    rw [pageOf_abandon hmirrors]
    exact hmirrors.update duration n.page

/-- A page can always be closed. -/
theorem reply_close (app : App) (s : PageState) :
    ∃ after, (page app).reply s .close = .answered 0 (.ok ()) after := by
  cases hclosed : s.closed with
  | false => exact ⟨({ s with closed := true }.note "close"), by simp [page, hclosed, openReply]⟩
  | true => exact ⟨s, by simp [page, hclosed, closedReply]⟩

/-- A scenario that ends well on a fresh page of its own ends well on a pool, with the same
verdicts and screenshots. -/
theorem runOne_of_ensures {Q : Moment PageState → Prop} {paths : List String}
    {verdicts : List (String × Bool)} {shots : List Checkpoint}
    (hperform : Run.Ensures (Stage.Meets (fun moment => moment.page = .fresh app) paths [] [])
      (scenario.perform (page app) config) fun _ => Stage.Meets Q paths verdicts shots)
    {before : Setting PoolState} (hfiles : before.files.Takes paths) :
    ∃ result after, Harness.runOne (pool app false) config scenario before =
        some (.ok result, after) ∧ result.error = none ∧
      result.checks.map CheckRecord.verdict = verdicts ∧ result.screenshots = shots := by
  let handle := before.moment.page.opened
  let opened : Setting PoolState := { before.telling (.started scenario.name) with
    moment := ⟨{ before.moment.page with pages := before.moment.page.pages ++ [.fresh app] },
      before.moment.clock⟩ }
  let alone : Setting PageState := ⟨⟨.fresh app, before.moment.clock⟩, opened.files, opened.events⟩
  have hmirrors : Mirrors handle opened.moment alone.moment := List.getElem?_concat_length
  have hsame : Run.Lockstep True (Stage.Alike (Setting.Alike (Mirrors handle)) Eq)
      (scenario.perform (pageOf app handle) config) (scenario.perform (page app) config) :=
    scenario.perform_alike Setting.Alike.lockstep (pageOf_mirrors app handle)
      (fun _ _ => trivial) config (.inl trivial) fun _ _ => trivial
  obtain ⟨_, stage, hended, other, halike, hmeets⟩ := hsame.ensures hperform
    (scenario.begin opened)
    ⟨scenario.begin alone, ⟨⟨hmirrors, rfl, rfl⟩, rfl, rfl⟩, ⟨rfl, hfiles⟩, rfl, rfl⟩
  have hlast : stage.setting.moment.page.pages[handle]? = some other.setting.moment.page :=
    halike.setting.moment
  obtain ⟨released, moment, hclose⟩ : ∃ released moment,
      Run.ask (pageOf app handle) .close stage.setting.moment = some (released, moment) := by
    obtain ⟨closed, hreply⟩ := reply_close app other.setting.moment.page
    rw [Run.ask, pageOf_reply hlast, hreply]
    exact ⟨_, _, rfl⟩
  have hopen : Harness.openPage (pool app false) config.viewport
      (before.telling (.started scenario.name)) = some (.ok handle, opened) := rfl
  obtain ⟨after, hrun⟩ := Harness.runOne_of_performed hopen hended hclose
  refine ⟨_, after, hrun, rfl, ?_, ?_⟩
  · rw [halike.result, hmeets.verdicts]
  · rw [halike.result, hmeets.screenshots]

end Model

end DesktopTrial
