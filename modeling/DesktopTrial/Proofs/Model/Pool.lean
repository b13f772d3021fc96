import DesktopTrial.Model.Pool
import DesktopTrial.Proofs.Harness.Execution
import DesktopTrial.Proofs.Model.Turn

/-!
# Model pools count their pages

A model pool counts the pages that it hands out and the pages that are released.  What
a scenario does on its page changes neither count; closing the page releases it.
-/

namespace DesktopTrial.Model

/-- A page of a pool replies as the page does on its own, and its state is put back. -/
theorem pageOf_reply {app : App} {handle : Nat} {s : PoolState} {state : PageState}
    (hstate : s.pages[handle]? = some state) (call : Call) :
    (pageOf app handle).reply s call =
      ((page app).reply state call).mapState (s.update handle state) := by
  simp only [pageOf, hstate]
  cases (page app).reply state call <;> rfl

theorem pageOf_abandon {app : App} {handle : Nat} {s : PoolState} {state : PageState}
    (hstate : s.pages[handle]? = some state) (locator : Locator) :
    (pageOf app handle).abandon s locator = s.update handle state state := by
  simp only [pageOf, hstate, page]

/-- Only a page that was handed out replies. -/
theorem pageOf_answered {app : App} {handle : Nat} {s reached : PoolState} {call : Call}
    {latency : Nat} {answer : Except Failure call.Answer}
    (hreply : (pageOf app handle).reply s call = .answered latency answer reached) :
    ∃ state after, s.pages[handle]? = some state ∧
      (page app).reply state call = .answered latency answer after ∧
      reached = s.update handle state after := by
  cases hstate : s.pages[handle]? with
  | none => simp [pageOf, hstate] at hreply
  | some state =>
      rw [pageOf_reply hstate] at hreply
      cases hanswer : (page app).reply state call with
      | answered latency' answer' after =>
          rw [hanswer] at hreply
          cases hreply
          exact ⟨state, after, rfl, hanswer, rfl⟩
      | pending => rw [hanswer] at hreply; cases hreply
      | stuck latency' => rw [hanswer] at hreply; cases hreply

theorem PoolState.update_pages {s : PoolState} {handle : Nat} {before after : PageState}
    (hbefore : s.pages[handle]? = some before) (other : Nat) :
    (s.update handle before after).pages[other]? =
      if other = handle then some after else s.pages[other]? := by
  have hlength : handle < s.pages.length := (List.getElem?_eq_some_iff.mp hbefore).1
  rw [update, List.getElem?_set]
  by_cases hother : handle = other
  · subst hother
    simp [hlength]
  · simp [hother, Ne.symm hother]

@[simp]
theorem PoolState.update_opened (s : PoolState) (handle : Nat) (before after : PageState) :
    (s.update handle before after).opened = s.opened := by
  rw [opened, opened, update, List.length_set]

/-- So many pages were handed out and so many released, and this one not. -/
structure PoolState.Holds (handle opened released : Nat) (s : PoolState) : Prop where
  page : ∃ state, s.pages[handle]? = some state ∧ state.closed = false
  opened : s.opened = opened
  released : s.released = released

theorem PoolState.Holds.update {handle opened released : Nat} {s : PoolState}
    {before after : PageState} (hholds : s.Holds handle opened released)
    (hbefore : s.pages[handle]? = some before) (hafter : after.closed = false) :
    (s.update handle before after).Holds handle opened released where
  page := ⟨after, by rw [PoolState.update_pages hbefore, if_pos rfl], hafter⟩
  opened := by rw [PoolState.update_opened, hholds.opened]
  released := by simp [PoolState.update, hafter, hholds.released]

/-- Own calls on a page that is held leave it held. -/
theorem pageOf_stays_held (app : App) (handle opened released : Nat) :
    Page.Lockstep True (fun call => call.isOwn = true)
      (fun m n => m = n ∧ m.page.Holds handle opened released) (pageOf app handle)
      (pageOf app handle) where
  sleep := by
    rintro m _ duration ⟨rfl, hholds⟩
    exact ⟨rfl, hholds⟩
  reply := by
    rintro m _ call hown ⟨rfl, hholds⟩
    obtain ⟨state, hstate, hclosed⟩ := hholds.page
    rw [pageOf_reply hstate, page_reply hclosed]
    refine .mapState fun latency result after hreply => ⟨rfl, ?_⟩
    have hafter := (openReply_turn hreply).closed_eq hown
    exact hholds.update hstate (hafter.trans hclosed)
  abandon := by
    rintro m _ locator duration - ⟨rfl, hholds⟩
    obtain ⟨state, hstate, hclosed⟩ := hholds.page
    refine ⟨rfl, ?_⟩
    rw [pageOf_abandon hstate]
    exact hholds.update hstate hclosed

theorem openPage_held {app : App} {viewport : Size} {before after : Setting PoolState}
    {outcome : Except Failure Nat}
    (hended : Harness.openPage (pool app false) viewport before = some (outcome, after)) :
    ∃ handle, outcome = .ok handle ∧ after.moment.page.Holds handle
      (before.moment.page.opened + 1) before.moment.page.released := by
  cases hended
  refine ⟨_, rfl, ⟨PageState.fresh app, ?_, rfl⟩, ?_, rfl⟩
  · simp
  · simp [PoolState.opened]

theorem close_held {app : App} {handle opened released : Nat}
    {before after : Moment PoolState} {outcome : Except Failure Unit}
    (hholds : before.page.Holds handle opened released)
    (hended : Run.ask (pageOf app handle) .close before = some (outcome, after)) :
    after.page.opened = opened ∧ after.page.released = released + 1 := by
  obtain ⟨state, hstate, hclosed⟩ := hholds.page
  simp only [Run.ask, pageOf, hstate, page, hclosed, openReply] at hended
  cases hended
  constructor
  · rw [← hholds.opened]
    simp [PoolState.opened, PoolState.update]
  · simp [PoolState.update, PageState.note, hclosed, hholds.released]

theorem perform_held {app : App} {handle opened released : Nat} {config : Configuration}
    {scenario : Scenario} {before after : Stage PoolState} {outcome : Except Failure Unit}
    (hholds : before.setting.moment.page.Holds handle opened released)
    (hended : scenario.perform (pageOf app handle) config before = some (outcome, after)) :
    after.setting.moment.page.Holds handle opened released := by
  have hrun := scenario.perform_alike Setting.Alike.lockstep
    (pageOf_stays_held app handle opened released) (fun _ hown => hown) config (.inl trivial)
    fun _ _ => trivial
  exact (hrun.keeps ⟨⟨⟨rfl, hholds⟩, rfl, rfl⟩, rfl, rfl⟩ hended).setting.moment.2

theorem capture_held {app : App} {handle opened released : Nat} {path : String}
    {before after : Setting PoolState} {outcome : Except Failure Unit}
    (hholds : before.moment.page.Holds handle opened released)
    (hended : Setting.capture (pageOf app handle) path before = some (outcome, after)) :
    after.moment.page.Holds handle opened released := by
  have hrun : Run.Lockstep True _ (Setting.capture (pageOf app handle) path)
      (Setting.capture (pageOf app handle) path) :=
    Setting.Alike.lockstep.capture (pageOf_stays_held app handle opened released) rfl trivial
  exact (hrun.keeps ⟨⟨rfl, hholds⟩, rfl, rfl⟩ hended).moment.2

/-- A scenario opens one page more and releases one page more, whatever it does. -/
theorem executed_counts {app : App} {config : Configuration} {scenario : Scenario}
    {before after : Setting PoolState} {executed : ScenarioResult × Option Failure}
    (hexecuted : Harness.Executed (pool app false) config scenario before executed after) :
    after.moment.page.opened = before.moment.page.opened + 1 ∧
      after.moment.page.released = before.moment.page.released + 1 := by
  cases hexecuted with
  | refused hopen _ =>
      obtain ⟨_, himpossible, _⟩ := openPage_held hopen
      cases himpossible
  | completed hopen hperform hclose _ =>
      obtain ⟨_, hhandle, hholds⟩ := openPage_held hopen
      cases hhandle
      exact close_held (perform_held hholds hperform) hclose
  | aborted hopen hperform hcapture hclose _ =>
      obtain ⟨_, hhandle, hholds⟩ := openPage_held hopen
      cases hhandle
      obtain ⟨_, _, _, hshown, _⟩ := Harness.captureFailure_never_fails hcapture
      exact close_held (capture_held (perform_held hholds hperform) hshown) hclose

theorem runAll_counts {app : App} {config : Configuration} {scenarios : List Scenario}
    {before after : Setting PoolState} {executed : List (ScenarioResult × Option Failure)}
    (hchain : Harness.InTurn (Harness.Executed (pool app false) config) scenarios before
      executed after) :
    after.moment.page.opened = before.moment.page.opened + scenarios.length ∧
      after.moment.page.released = before.moment.page.released + scenarios.length := by
  induction hchain with
  | nil => exact ⟨rfl, rfl⟩
  | cons hexecuted _ ih =>
      obtain ⟨hopened, hreleased⟩ := executed_counts hexecuted
      rw [List.length_cons]
      omega

end DesktopTrial.Model
