import DesktopTrial.Proofs.Harness.Execution
import DesktopTrial.Proofs.Harness.Lockstep
import DesktopTrial.Proofs.Scenario.Plan

/-!
# Events and report tell the same story

For every scenario a run tells one block of events: that the scenario was started, its
checks and checkpoints, the failure that aborted it, if one did, and that it was
finished.  The result in the report says the same as the block.
-/

namespace DesktopTrial

namespace Event

def check? : Event → Option CheckRecord
  | .check _ record => some record
  | _ => none

def checkpoint? : Event → Option Checkpoint
  | .checkpoint _ shot => some shot
  | _ => none

def shot? : Event → Option String
  | .checkpoint _ shot => some shot.path
  | .aborted _ _ shot => shot
  | _ => none

end Event

/-- What is told of one scenario, and its result. -/
structure Tale where
  name : String
  notes : List Note
  /-- The failure that aborted the scenario, with the file of its screenshot. -/
  aborted : Option (Failure × Option String)
  result : ScenarioResult

namespace Tale

def events (tale : Tale) : List Event :=
  .started tale.name ::
    (tale.notes.map (Note.event tale.name) ++
      (tale.aborted.map fun (failure, shot) => .aborted tale.name failure shot).toList ++
      [.finished tale.result])

structure Consistent (tale : Tale) : Prop where
  scenario : tale.result.scenario = tale.name
  checks : tale.result.checks = tale.events.filterMap Event.check?
  screenshots : tale.result.screenshots = tale.events.filterMap Event.checkpoint?
  error : tale.result.error = tale.aborted.map (·.1.message)
  lastScreenshot : tale.result.lastScreenshot = (tale.events.filterMap Event.shot?).getLast?

/-- The tale of a scenario that noted this and was aborted so. -/
def of (name : String) (notes : List Note) (aborted : Option (Failure × Option String)) :
    Tale where
  name
  notes
  aborted
  result :=
    let noted := ScenarioResult.addAll { scenario := name } notes
    { noted with
      lastScreenshot := (aborted.bind (·.2)).or noted.lastScreenshot
      error := aborted.map (·.1.message) }

theorem check?_event (name : String) : Event.check? ∘ Note.event name = Note.check? := by
  funext note
  cases note <;> rfl

theorem checkpoint?_event (name : String) :
    Event.checkpoint? ∘ Note.event name = Note.checkpoint? := by
  funext note
  cases note <;> rfl

theorem shot?_event (name : String) :
    Event.shot? ∘ Note.event name = fun note => note.checkpoint?.map (·.path) := by
  funext note
  cases note <;> rfl

theorem of_consistent (name : String) (notes : List Note)
    (aborted : Option (Failure × Option String)) : (of name notes aborted).Consistent where
  scenario := by simp [of]
  checks := by
    cases aborted <;>
      simp [of, events, List.filterMap_cons, List.filterMap_map, Event.check?, check?_event]
  screenshots := by
    cases aborted <;>
      simp [of, events, List.filterMap_cons, List.filterMap_map, Event.checkpoint?,
        checkpoint?_event]
  error := rfl
  lastScreenshot := by
    -- The screenshot of the failure, if there is one, is told after every checkpoint.
    have hshots : (notes.map (Note.event name)).filterMap Event.shot? =
        (notes.filterMap Note.checkpoint?).map (·.path) := by
      rw [List.filterMap_map, shot?_event, List.map_filterMap]
    rcases aborted with _ | ⟨failure, _ | shot⟩ <;>
      simp [of, events, List.filterMap_cons, hshots, Event.shot?]

end Tale

namespace Harness

variable {σ η : Type} {pool : Pool σ η} {config : Configuration}

/-- What a performed scenario has told since it was started is what it has recorded. -/
theorem performed_notes {scenario : Scenario} {handle : η} {before opened : Setting σ}
    {stage : Stage σ} {outcome : Except Failure Unit}
    (hopen : openPage pool config.viewport (before.telling (.started scenario.name)) =
      some (.ok handle, opened))
    (hperform : scenario.perform (pool.page handle) config (scenario.begin opened) =
      some (outcome, stage)) :
    ∃ notes, stage.result = ScenarioResult.addAll { scenario := scenario.name } notes ∧
      stage.setting.events =
        before.events ++ .started scenario.name :: notes.map (Note.event scenario.name) := by
  obtain ⟨moment, rfl⟩ := openPage_eq_some hopen
  obtain ⟨notes, hnoted⟩ := Stage.noted_perform hperform
  exact ⟨notes, hnoted.result, by simpa [Scenario.begin] using hnoted.events⟩

/-- However a scenario is executed, its events and its result are those of one tale. -/
theorem Executed.told {scenario : Scenario} {before after : Setting σ}
    {executed : ScenarioResult × Option Failure}
    (hexecuted : Executed pool config scenario before executed after) :
    ∃ notes aborted, executed.1 = (Tale.of scenario.name notes aborted).result ∧
      after.events = before.events ++ (Tale.of scenario.name notes aborted).events := by
  cases hexecuted with
  | @refused failure opened result hopen hresult =>
      obtain ⟨moment, rfl⟩ := openPage_eq_some hopen
      subst hresult
      refine ⟨[], some (failure, none), rfl, ?_⟩
      simp [Tale.of, Tale.events, ScenarioResult.addAll]
  | @completed handle opened stage moment released result hopen hperform hclose hresult =>
      obtain ⟨notes, hrecorded, hevents⟩ := performed_notes hopen hperform
      rw [hrecorded] at hresult
      subst hresult
      refine ⟨notes, none, rfl, ?_⟩
      simp [Tale.of, Tale.events, hevents]
  | @aborted handle opened stage failure shot shown moment released result hopen hperform
      hcapture hclose hresult =>
      obtain ⟨notes, hrecorded, hevents⟩ := performed_notes hopen hperform
      obtain ⟨_, _, _, hshown, _⟩ := captureFailure_never_fails hcapture
      obtain ⟨_, _, _, _, rfl⟩ := Setting.capture_eq_some hshown
      rw [hrecorded] at hresult
      subst hresult
      refine ⟨notes, some (failure, shot), rfl, ?_⟩
      simp [Tale.of, Tale.events, ScenarioResult.abortedBy, hevents]

theorem InTurn.told {scenarios : List Scenario} {before after : Setting σ}
    {executed : List (ScenarioResult × Option Failure)}
    (hchain : InTurn (Executed pool config) scenarios before executed after) :
    ∃ tales : List Tale, tales.map (·.name) = scenarios.map (·.name) ∧
      tales.map (·.result) = executed.map (·.1) ∧
      after.events = before.events ++ tales.flatMap Tale.events ∧
      ∀ tale ∈ tales, tale.Consistent := by
  induction hchain with
  | nil => exact ⟨[], rfl, rfl, by simp, by simp⟩
  | @cons scenario scenarios before middle after executed rest hexecuted _ ih =>
      obtain ⟨notes, aborted, hresult, hevents⟩ := hexecuted.told
      obtain ⟨tales, hnames, hresults, hothers, hconsistent⟩ := ih
      refine ⟨Tale.of scenario.name notes aborted :: tales, ?_, ?_, ?_, ?_⟩
      · rw [List.map_cons, List.map_cons, hnames]
        rfl
      · rw [List.map_cons, List.map_cons, hresults, hresult]
      · rw [hothers, hevents, List.flatMap_cons, List.append_assoc]
      · intro tale htale
        obtain rfl | htale := List.mem_cons.mp htale
        · exact Tale.of_consistent _ _ _
        · exact hconsistent tale htale

/-- The events of a run are one block for every scenario, in order, and the results of
its report are those of the blocks.  A run on pages that answer has such events, since it
ends. -/
theorem report_tells_events (pool : Pool σ η) (config : Configuration)
    (scenarios : List Scenario) (before : Setting σ) :
    (∀ (after : Setting σ) (outcome : Except Failure Report),
      runAll pool config scenarios before = some (outcome, after) →
      ∃ tales : List Tale, tales.map (·.name) = scenarios.map (·.name) ∧
        after.events = before.events ++ tales.flatMap Tale.events ∧
        outcome = .ok ⟨config.baseUrl, tales.map (·.result)⟩ ∧
        ∀ tale ∈ tales, tale.Consistent) ∧
    ((∀ handle, (pool.page handle).Answers) → 1 ≤ config.timeouts.poll.toNat →
      ∃ outcome after, runAll pool config scenarios before = some (outcome, after)) := by
  constructor
  · intro after outcome hended
    obtain ⟨executed, hchain, hreport⟩ := runAll_cases hended
    obtain ⟨tales, hnames, hresults, hevents, hconsistent⟩ := hchain.told
    exact ⟨tales, hnames, hevents, by rw [hreport, hresults], hconsistent⟩
  · intro hanswers hpause
    exact runAll_ends hanswers hpause scenarios before

/-- A pool whose pages find nothing and crash under their second secondary click.  The state of
a page counts these clicks. -/
def crashingPool : Pool Nat Unit where
  «open» _ _ := (.ok (), 0)
  page _ :=
    { reply := fun clicks call =>
        match call with
        | .click _ .secondary =>
            if clicks = 1 then .answered 0 (.error (.driver "target crashed")) clicks
            else .answered 0 (.ok ()) (clicks + 1)
        | .click _ .primary => .answered 0 (.ok ()) clicks
        | .query _ => .answered 0 (.ok []) clicks
        | .navigate _ => .answered 0 (.ok ()) clicks
        | .currentUrl => .answered 0 (.ok "http://localhost:5173/desktop") clicks
        | .readStorage _ => .answered 0 (.ok none) clicks
        | .install _ => .answered 0 (.ok ()) clicks
        | .screenshot => .answered 0 (.ok .empty) clicks
        | .close => .answered 0 (.ok ()) clicks
      abandon := fun clicks _ => clicks }

theorem crashingPool_answers (handle : Unit) : (crashingPool.page handle).Answers := by
  intro clicks call
  cases call with
  | click point button =>
      cases button with
      | primary => exact ⟨_, _, _, rfl⟩
      | secondary =>
          change ∃ latency result after, (if clicks = 1 then _ else _) = _
          split <;> exact ⟨_, _, _, rfl⟩
  | _ => exact ⟨_, _, _, rfl⟩

def twoRegions : Step :=
  .probeRegions [⟨"background", .point ⟨500, 500⟩, true⟩, ⟨"corner", .point ⟨5, 5⟩, false⟩]

/-- A visit whose third step crashes its page between two probes. -/
def brokenVisit : Scenario :=
  ⟨"visit", "", [.assertVisible "dock" (.css ".desktop-dock"), .checkpoint "home", twoRegions,
    .assertNotRedirected "session"]⟩

/-- A scenario that its page aborts is told and reported alike, with the checks and the
checkpoint that came before. -/
theorem broken_page_told :
    ∃ (after : Setting Nat) (tales : List Tale),
      runAll crashingPool {} [brokenVisit] ⟨⟨0, 0⟩, .empty, []⟩ =
        some (.ok ⟨"http://localhost:5173", tales.map Tale.result⟩, after) ∧
      tales.map Tale.name = ["visit"] ∧ after.events = [] ++ tales.flatMap Tale.events ∧
      (∀ tale ∈ tales, tale.Consistent) ∧
      (after.events.filterMap Event.check?).map (·.name) = ["dock", "context menu: background"] ∧
      (after.events.filterMap Event.checkpoint?).map (·.name) = ["home"] := by
  obtain ⟨htold, hends⟩ :=
    report_tells_events crashingPool {} [brokenVisit] ⟨⟨0, 0⟩, .empty, []⟩
  obtain ⟨outcome, after, hended⟩ := hends crashingPool_answers (by decide)
  obtain ⟨tales, hnames, hevents, rfl, hconsistent⟩ := htold _ _ hended
  have hnoted : (runAll crashingPool {} [brokenVisit] ⟨⟨0, 0⟩, .empty, []⟩).any fun ended =>
      (ended.2.events.filterMap Event.check?).map (·.name) =
          ["dock", "context menu: background"] ∧
        (ended.2.events.filterMap Event.checkpoint?).map (·.name) = ["home"] := by
    decide +kernel
  rw [hended, Option.any_some, decide_eq_true_eq] at hnoted
  exact ⟨after, tales, hended, hnames, hevents, hconsistent, hnoted⟩

end Harness

end DesktopTrial
