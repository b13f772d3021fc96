import DesktopTrial.Console
import DesktopTrial.Proofs.Harness.Story

/-!
# All views of success agree

Whether a run went well is told in three ways: by the verdict of its report, by the
counts of the report, and by what a quiet console prints.  The verdict and the counts are
computed from the results and the lines from the events, so the agreement rests on the
tales that both of them tell.
-/

namespace DesktopTrial

/-! ## Verdict and counts of a report -/

namespace Report

variable (report : Report)

theorem failureCount_eq_countP :
    report.failureCount = (report.results.flatMap (·.checks)).countP (!·.passed) := by
  rw [List.countP_eq_length_filter, List.filter_flatMap, failureCount]
  rfl

theorem failureCount_le_checkCount : report.failureCount ≤ report.checkCount := by
  rw [failureCount_eq_countP, checkCount]
  exact List.countP_le_length

theorem passed_iff_counts :
    report.passed = true ↔ report.failureCount = 0 ∧ report.abortedCount = 0 := by
  have hchecks : report.failureCount = 0 ↔
      ∀ result ∈ report.results, result.checks.all (·.passed) = true := by
    simp only [failureCount_eq_countP, List.countP_eq_zero, List.mem_flatMap, List.all_eq_true]
    grind
  have hfailures : report.abortedCount = 0 ↔
      ∀ result ∈ report.results, result.error.isNone = true := by
    simp [abortedCount, List.countP_eq_zero]
  rw [hchecks, hfailures, passed, List.all_eq_true]
  simp only [ScenarioResult.passed, Bool.and_eq_true]
  constructor
  · intro hpassed
    exact ⟨fun result hresult => (hpassed result hresult).2,
      fun result hresult => (hpassed result hresult).1⟩
  · intro hzero result hresult
    exact ⟨hzero.2 result hresult, hzero.1 result hresult⟩

end Report

/-! ## What a quiet console prints -/

namespace Event

/-- A check that did not hold, or a failure that aborted its scenario. -/
def isProblem : Event → Bool
  | .check _ record => !record.passed
  | .aborted _ _ _ => true
  | _ => false

end Event

namespace Console

def full (console : Console) : Console := { console with quiet := false }

def quieted (console : Console) : Console := { console with quiet := true }

/-- The lines for some events, each with the event that it belongs to. -/
def attributedLines (console : Console) (events : List Event) : List (Event × String) :=
  events.flatMap fun event => (console.eventLines event).map fun line => (event, line)

variable (console : Console)

theorem eventLines_quieted (event : Event) :
    console.quieted.eventLines event =
      if event.isProblem then console.full.eventLines event else [] := by
  cases event with
  | check scenario record =>
      cases hpassed : record.passed <;>
        simp [eventLines, Event.isProblem, unlessQuiet, quieted, full, hpassed, checkLine,
          problem, emphasize]
  | aborted scenario failure screenshot => rfl
  | started | checkpoint | finished => rfl

theorem length_eventLines_full (event : Event) : (console.full.eventLines event).length = 1 := by
  cases event with
  | check scenario record =>
      cases hpassed : record.passed <;> simp [eventLines, unlessQuiet, full, hpassed]
  | started | checkpoint | finished | aborted => rfl

theorem quieted_lines_eq_filter (events : List Event) :
    events.flatMap console.quieted.eventLines =
      ((console.full.attributedLines events).filter (·.1.isProblem)).map Prod.snd := by
  induction events with
  | nil => rfl
  | cons event events ih =>
      have hcons : console.full.attributedLines (event :: events) =
          (console.full.eventLines event).map (fun line => (event, line)) ++
            console.full.attributedLines events := List.flatMap_cons
      rw [List.flatMap_cons, ih, eventLines_quieted, hcons, List.filter_append, List.map_append]
      congr 1
      simp only [List.filter_map, Function.comp_def, List.map_map, List.map_id']
      cases hproblem : event.isProblem with
      | true => rw [if_pos rfl, List.filter_eq_self.mpr fun _ _ => rfl]
      | false => rw [if_neg Bool.false_ne_true, List.filter_eq_nil_iff.mpr fun _ _ => by simp]

/-- Every problem is printed on a line of its own, and nothing else is. -/
theorem length_quieted_lines (events : List Event) :
    (events.flatMap console.quieted.eventLines).length = events.countP Event.isProblem := by
  induction events with
  | nil => rfl
  | cons event events ih =>
      rw [List.flatMap_cons, List.length_append, ih, eventLines_quieted, List.countP_cons,
        Nat.add_comm]
      cases hproblem : event.isProblem <;> simp [length_eventLines_full]

end Console

/-! ## Agreement -/

namespace Tale

variable {tale : Tale}

/-- The problems of a tale are its failed checks and what aborted it. -/
theorem no_problem_iff :
    (∀ event ∈ tale.events, event.isProblem = false) ↔
      (∀ record ∈ tale.events.filterMap Event.check?, record.passed = true) ∧
        tale.aborted = none := by
  constructor
  · intro hcalm
    constructor
    · intro record hrecord
      obtain ⟨event, hevent, hcheck⟩ := List.mem_filterMap.mp hrecord
      have hpassed := hcalm event hevent
      cases event with
      | check scenario record' =>
          obtain rfl := Option.some.inj hcheck
          simpa [Event.isProblem] using hpassed
      | _ => cases hcheck
    · cases haborted : tale.aborted with
      | none => rfl
      | some aborted =>
          have hproblem := hcalm (.aborted tale.name aborted.1 aborted.2)
            (by simp [events, haborted])
          cases hproblem
  · rintro ⟨hchecks, haborted⟩ event hevent
    cases event with
    | check scenario record =>
        have hpassed := hchecks record (List.mem_filterMap.mpr ⟨_, hevent, rfl⟩)
        simpa [Event.isProblem] using hpassed
    | aborted scenario failure shot =>
        -- A note is a check or a checkpoint.
        have hnote : ∃ note ∈ tale.notes,
            Note.event tale.name note = .aborted scenario failure shot := by
          simpa [events, haborted] using hevent
        obtain ⟨note, _, hsame⟩ := hnote
        cases note <;> cases hsame
    | _ => rfl

theorem Consistent.passed_iff (hconsistent : tale.Consistent) :
    tale.result.passed = true ↔ ∀ event ∈ tale.events, event.isProblem = false := by
  rw [no_problem_iff, ScenarioResult.passed, Bool.and_eq_true, List.all_eq_true,
    hconsistent.checks, hconsistent.error, and_comm, Option.isNone_map, Option.isNone_iff_eq_none]

end Tale

namespace Harness

variable {σ η : Type}

/-- A run was a success exactly when its report counts neither failed checks nor aborted
scenarios, and exactly when a quiet console printed nothing.  What a quiet console prints
are the lines of the full one that belong to failed checks and failures, one line each. -/
theorem views_of_success_agree (pool : Pool σ η) (config : Configuration)
    (scenarios : List Scenario) (before : Setting σ) :
    (∀ (after : Setting σ) (outcome : Except Failure Report),
      runAll pool config scenarios before = some (outcome, after) →
      ∃ (report : Report) (events : List Event),
        outcome = .ok report ∧ after.events = before.events ++ events ∧
        (report.passed = true ↔ report.failureCount = 0 ∧ report.abortedCount = 0) ∧
        (∀ console : Console,
          report.passed = true ↔ events.flatMap console.quieted.eventLines = []) ∧
        report.failureCount ≤ report.checkCount) ∧
    (∀ (console : Console) (events : List Event),
      events.flatMap console.quieted.eventLines =
        ((console.full.attributedLines events).filter (·.1.isProblem)).map Prod.snd ∧
      (events.flatMap console.quieted.eventLines).length = events.countP Event.isProblem) ∧
    ((∀ handle, (pool.page handle).Answers) → 1 ≤ config.timeouts.poll.toNat →
      ∃ outcome after, runAll pool config scenarios before = some (outcome, after)) := by
  refine ⟨?_, fun console events =>
    ⟨console.quieted_lines_eq_filter events, console.length_quieted_lines events⟩, ?_⟩
  · intro after outcome hended
    obtain ⟨executed, hchain, hreport⟩ := runAll_cases hended
    obtain ⟨tales, _, hresults, hevents, hconsistent⟩ := hchain.told
    refine ⟨⟨config.baseUrl, executed.map (·.1)⟩, tales.flatMap Tale.events, hreport, hevents,
      Report.passed_iff_counts _, fun console => ?_, Report.failureCount_le_checkCount _⟩
    rw [← List.length_eq_zero_iff, console.length_quieted_lines, List.countP_eq_zero]
    simp only [Report.passed, ← hresults, List.all_eq_true, List.mem_map, List.mem_flatMap,
      forall_exists_index, and_imp, forall_apply_eq_imp_iff₂, Bool.not_eq_true]
    constructor
    · intro hpassed event tale htale
      exact (hconsistent tale htale).passed_iff.mp (hpassed tale htale) event
    · intro hquiet tale htale
      exact (hconsistent tale htale).passed_iff.mpr fun event => hquiet event tale htale
  · intro hanswers hpause
    exact runAll_ends hanswers hpause scenarios before

/-- On a page that is broken the report fails and a quiet console says so. -/
theorem broken_page_seen :
    ∃ (after : Setting Unit) (report : Report) (events : List Event),
      runAll brokenPool {} [⟨"visit", "", [.checkpoint "home"]⟩] ⟨⟨(), 0⟩, .empty, []⟩ =
        some (.ok report, after) ∧
      after.events = [] ++ events ∧
      (report.passed = true ↔ report.failureCount = 0 ∧ report.abortedCount = 0) ∧
      (∀ console : Console,
        report.passed = true ↔ events.flatMap console.quieted.eventLines = []) ∧
      report.failureCount ≤ report.checkCount ∧ report.passed = false := by
  obtain ⟨hviews, _, hends⟩ := views_of_success_agree brokenPool {}
    [⟨"visit", "", [.checkpoint "home"]⟩] ⟨⟨(), 0⟩, .empty, []⟩
  obtain ⟨outcome, after, hended⟩ := hends brokenPool_answers (by decide)
  obtain ⟨report, events, rfl, hevents, hcounts, hlines, hle⟩ := hviews _ _ hended
  have hfailed : (runAll brokenPool {} [⟨"visit", "", [.checkpoint "home"]⟩]
      ⟨⟨(), 0⟩, .empty, []⟩).map (·.1.toOption.map Report.passed) = some (some false) := rfl
  rw [hended] at hfailed
  exact ⟨after, report, events, hended, hevents, hcounts, hlines, hle,
    by simpa [Except.toOption] using hfailed⟩

end Harness

end DesktopTrial
