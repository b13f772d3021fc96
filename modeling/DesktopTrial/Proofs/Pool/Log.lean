import DesktopTrial.Proofs.Harness.Lockstep
import DesktopTrial.Proofs.Scenario.Setting

/-!
# The log of a pool

A logged pool writes down every request for a page and every call on a page, and is
otherwise the pool that it was.  So whatever is run on it runs as it would without the
log.
-/

namespace DesktopTrial

/-- What a pool or one of its pages was asked. -/
inductive LogEntry (η : Type) where
  /-- A fresh page was requested, and handed out or refused. -/
  | opened (viewport : Size) (outcome : Except Failure η)
  /-- A call was made on a page. -/
  | called (handle : η) (call : Call)

/-- A state of the pages together with the log, whose last entry is the newest. -/
structure Logged (σ η : Type) where
  inner : σ
  log : List (LogEntry η)

variable {σ η : Type}

def Logged.note (entry : LogEntry η) (s : Logged σ η) : Logged σ η :=
  { s with log := s.log ++ [entry] }

/-- The page whose calls are logged.  A query that is given up was called, too. -/
def Page.logged (handle : η) (page : Page σ) : Page (Logged σ η) where
  reply s call :=
    match page.reply s.inner call with
    | .answered latency result after =>
        .answered latency result (Logged.note (.called handle call) { s with inner := after })
    | .pending => .pending
    | .stuck latency => .stuck latency
  abandon s locator :=
    Logged.note (.called handle (.query locator))
      { s with inner := page.abandon s.inner locator }

/-- The pool whose requests and whose pages' calls are logged. -/
def Pool.logged (pool : Pool σ η) : Pool (Logged σ η) η where
  «open» s viewport :=
    match pool.open s.inner viewport with
    | (opened, after) => (opened, Logged.note (.opened viewport opened) { s with inner := after })
  page handle := (pool.page handle).logged handle

/-! ## The log changes nothing -/

def Moment.unlogged (moment : Moment (Logged σ η)) : Moment σ :=
  ⟨moment.page.inner, moment.clock⟩

def Setting.unlogged (setting : Setting (Logged σ η)) : Setting σ :=
  ⟨setting.moment.unlogged, setting.files, setting.events⟩

theorem Page.mapState_reply_logged {handle : η} {page : Page σ} {s : Logged σ η} {call : Call} :
    ((page.logged handle).reply s call).mapState Logged.inner = page.reply s.inner call := by
  simp only [Page.logged]
  cases page.reply s.inner call <;> rfl

theorem Page.logged_lockstep (handle : η) (page : Page σ) :
    Page.Lockstep True (fun _ => True) (fun m n => m.unlogged = n) (page.logged handle)
      page :=
  .of_mapState Logged.inner (fun _ _ => Page.mapState_reply_logged) fun _ _ => rfl

theorem Pool.logged_lockstep (pool : Pool σ η) :
    Pool.Lockstep True (fun m n => m.unlogged = n) pool.logged pool where
  handle := by
    rintro m _ viewport rfl
    rfl
  state := by
    rintro m _ viewport rfl
    rfl
  page handle := (pool.page handle).logged_lockstep handle

/-- The harness does the same on a pool with and without a log. -/
theorem Harness.runAll_unlogged (pool : Pool σ η) (config : Configuration)
    (scenarios : List Scenario) (before : Setting (Logged σ η)) :
    runAll pool config scenarios before.unlogged =
      (runAll pool.logged config scenarios before).map fun ended =>
        (ended.1, ended.2.unlogged) := by
  have hrun := runAll_alike pool.logged_lockstep config (.inl trivial) scenarios
  rw [Setting.alike_forget] at hrun
  exact hrun.forgets before

theorem Harness.runOne_unlogged (pool : Pool σ η) (config : Configuration)
    (scenario : Scenario) (before : Setting (Logged σ η)) :
    runOne pool config scenario before.unlogged =
      (runOne pool.logged config scenario before).map fun ended =>
        (ended.1, ended.2.unlogged) := by
  have hrun := runOne_alike pool.logged_lockstep config (.inl trivial) scenario
  rw [Setting.alike_forget] at hrun
  exact hrun.forgets before

theorem Page.Answers.logged {page : Page σ} (hanswers : page.Answers) (handle : η) :
    (page.logged handle).Answers := by
  intro s call
  obtain ⟨latency, result, after, hreply⟩ := hanswers s.inner call
  refine ⟨latency, result, Logged.note (.called handle call) { s with inner := after }, ?_⟩
  simp [Page.logged, hreply]

/-! ## What is written down -/

def LogEntry.calls (handle : η) (calls : List Call) : List (LogEntry η) :=
  calls.map (.called handle)

/-- Every call that a page answers is logged. -/
theorem Page.reply_logged {page : Page σ} {handle : η} {call : Call} {before after : Logged σ η}
    {latency : Nat} {answer : Except Failure call.Answer}
    (hreply : (page.logged handle).reply before call = .answered latency answer after) :
    after.log = before.log ++ [.called handle call] := by
  simp only [Page.logged] at hreply
  cases hinner : page.reply before.inner call with
  | pending => simp [hinner] at hreply
  | stuck latency => simp [hinner] at hreply
  | answered latency result inner =>
      simp only [hinner, Reply.answered.injEq] at hreply
      obtain ⟨-, -, rfl⟩ := hreply
      rfl

theorem Run.ask_logged {page : Page σ} {handle : η} {call : Call}
    {before after : Moment (Logged σ η)} {outcome : Except Failure call.Answer}
    (hended : Run.ask (page.logged handle) call before = some (outcome, after)) :
    after.page.log = before.page.log ++ [.called handle call] := by
  obtain ⟨_, hreply⟩ := Run.ask_eq_some hended
  exact Page.reply_logged hreply

/-- Whatever becomes of a screenshot, the page is asked for it once. -/
theorem Setting.capture_logged {page : Page σ} {handle : η} {path : String}
    {before after : Setting (Logged σ η)} {outcome : Except Failure Unit}
    (hended : Setting.capture (page.logged handle) path before = some (outcome, after)) :
    after.moment.page.log = before.moment.page.log ++ [.called handle .screenshot] := by
  obtain ⟨_, moment, _, hasked, rfl⟩ := Setting.capture_eq_some hended
  exact Run.ask_logged hasked

/-- The log has grown by own calls on a page. -/
def Moment.OwnCalls (handle : η) (log : List (LogEntry η)) (moment : Moment (Logged σ η)) :
    Prop :=
  ∃ calls : List Call, (∀ call ∈ calls, call.isOwn = true) ∧
    moment.page.log = log ++ LogEntry.calls handle calls

theorem Moment.OwnCalls.snoc {handle : η} {log : List (LogEntry η)}
    {before after : Moment (Logged σ η)} {call : Call} (hcalls : before.OwnCalls handle log)
    (hown : call.isOwn = true)
    (hlog : after.page.log = before.page.log ++ [.called handle call]) :
    after.OwnCalls handle log := by
  obtain ⟨calls, hall, hbefore⟩ := hcalls
  refine ⟨calls ++ [call], ?_, ?_⟩
  · rw [List.forall_mem_append]
    exact ⟨hall, List.forall_mem_singleton.mpr hown⟩
  · simp [hlog, hbefore, LogEntry.calls]

theorem Page.logged_own_calls (handle : η) (page : Page σ) (log : List (LogEntry η)) :
    Page.Lockstep True (fun call => call.isOwn = true)
      (fun m n => m = n ∧ m.OwnCalls handle log) (page.logged handle)
      (page.logged handle) where
  sleep := by
    rintro m _ duration ⟨rfl, hcalls⟩
    exact ⟨rfl, hcalls⟩
  reply := by
    rintro m _ call hcall ⟨rfl, hcalls⟩
    exact .of_answered fun latency result after hreply =>
      ⟨rfl, hcalls.snoc hcall (Page.reply_logged hreply)⟩
  abandon := by
    rintro m _ locator duration hquery ⟨rfl, hcalls⟩
    exact ⟨rfl, hcalls.snoc hquery rfl⟩

/-- All that performing a scenario asks of its page are own calls. -/
theorem Scenario.perform_logged {page : Page σ} {handle : η} {config : Configuration}
    {scenario : Scenario} {before after : Stage (Logged σ η)} {outcome : Except Failure Unit}
    (hended : scenario.perform (page.logged handle) config before = some (outcome, after)) :
    ∃ calls : List Call, (∀ call ∈ calls, call.isOwn = true) ∧
      after.setting.moment.page.log =
        before.setting.moment.page.log ++ LogEntry.calls handle calls := by
  have hpages := page.logged_own_calls handle before.setting.moment.page.log
  have hrun := scenario.perform_alike Setting.Alike.lockstep hpages (fun _ hown => hown) config
    (.inl trivial) fun _ _ => trivial
  have hbefore : before.setting.moment.OwnCalls handle before.setting.moment.page.log :=
    ⟨[], by simp, by simp [LogEntry.calls]⟩
  exact (hrun.keeps ⟨⟨⟨rfl, hbefore⟩, rfl, rfl⟩, rfl, rfl⟩ hended).setting.moment.2

end DesktopTrial
