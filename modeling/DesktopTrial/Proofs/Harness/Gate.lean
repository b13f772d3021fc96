import DesktopTrial.Model.Pool
import DesktopTrial.Proofs.Harness.Execution
import DesktopTrial.Proofs.Session.Gate

/-!
# The session gate of an execution

When the harness executes a scenario, what is asked of its page is what the session lets
through, followed by the screenshot of a failure, if there was one, and the closing of
the page.  An execution that goes on for ever has no transcript; what it asks up to some
point is what is asked of a page that fails every call from there on.
-/

namespace DesktopTrial

variable {σ η : Type}

/-! ## Transcribed pools -/

def Pool.transcribed (pool : Pool σ η) : Pool (Transcribed σ) η where
  «open» s viewport :=
    match pool.open s.inner viewport with
    | (opened, after) => (opened, { s with inner := after })
  page handle := (pool.page handle).transcribed

def Setting.untranscribed (setting : Setting (Transcribed σ)) : Setting σ :=
  ⟨setting.moment.untranscribed, setting.files, setting.events⟩

def Setting.transcript (setting : Setting (Transcribed σ)) : List Exchange :=
  setting.moment.transcript

theorem Pool.transcribed_lockstep (pool : Pool σ η) :
    Pool.Lockstep True (fun m n => m.untranscribed = n) pool.transcribed pool where
  handle := by
    rintro m _ viewport rfl
    rfl
  state := by
    rintro m _ viewport rfl
    rfl
  page handle := (pool.page handle).transcribed_lockstep

namespace Harness

/-- The harness does the same on a pool with and without a transcript. -/
theorem execute_untranscribed (pool : Pool σ η) (config : Configuration) (scenario : Scenario)
    (before : Setting (Transcribed σ)) :
    execute pool config scenario before.untranscribed =
      (execute pool.transcribed config scenario before).map fun ended =>
        (ended.1, ended.2.untranscribed) := by
  have hrun := execute_alike pool.transcribed_lockstep config (.inl trivial) scenario
  rw [Setting.alike_forget] at hrun
  exact hrun.forgets before

/-- The calls of an execution and the failure that aborted it.  Nothing is asked where no
page was opened. -/
inductive Guarded (seed : Seed) : List Exchange → Option Failure → Prop where
  | refused {failure : Failure} : Guarded seed [] (some failure)
  | performed {own closing : List Exchange} {failure : Option Failure} :
      Session.Gate seed own failure.isSome →
      closing.map (·.call) = (if failure.isSome then [.screenshot, .close] else [.close]) →
      Guarded seed (own ++ closing) failure

variable {pool : Pool σ η} {config : Configuration} {scenario : Scenario}
  {before after : Setting (Transcribed σ)}

theorem openPage_transcribed {viewport : Size} {outcome : Except Failure η}
    (hended : openPage pool.transcribed viewport before = some (outcome, after)) :
    after.transcript = before.transcript := by
  rw [openPage, Pool.transcribed] at hended
  cases hended
  rfl

/-- From the moment the page is handed out, its calls keep to the gate. -/
theorem performed_gated {handle : η} {opened : Setting (Transcribed σ)}
    {stage : Stage (Transcribed σ)} {outcome : Except Failure Unit}
    (hopen : openPage pool.transcribed config.viewport
      (before.telling (.started scenario.name)) = some (.ok handle, opened))
    (hperform : scenario.perform (pool.transcribed.page handle) config (scenario.begin opened) =
      some (outcome, stage)) :
    ∃ own, stage.setting.transcript = before.transcript ++ own ∧
      Session.Gate (Seed.ofSettings config.session) own !outcome.isOk := by
  obtain ⟨own, htranscript, hgate⟩ := Scenario.perform_gated rfl hperform
  refine ⟨own, ?_, hgate⟩
  calc
    stage.setting.transcript = opened.transcript ++ own := htranscript
    _ = before.transcript ++ own := by
      rw [openPage_transcribed hopen]
      rfl

/-- A failure is shown in one screenshot, after which the page is closed. -/
theorem shown_transcribed {page : Page σ} {name : String} {shot : Option String}
    {moment : Moment (Transcribed σ)} {released : Except Failure Unit}
    (hcapture : captureFailure page.transcribed config name before = some (.ok shot, after))
    (hclose : Run.ask page.transcribed .close after.moment = some (released, moment)) :
    ∃ image, moment.transcript =
      before.transcript ++ [⟨.screenshot, some image⟩, ⟨.close, some released⟩] := by
  obtain ⟨_, _, _, hshown, _⟩ := captureFailure_never_fails hcapture
  obtain ⟨image, seen, files, hasked, rfl⟩ := Setting.capture_eq_some hshown
  refine ⟨image, ?_⟩
  calc
    moment.transcript = seen.transcript ++ [⟨.close, some released⟩] :=
      Run.ask_transcribed hclose
    _ = before.transcript ++ [⟨.screenshot, some image⟩] ++ [⟨.close, some released⟩] := by
      congr 1
      exact Run.ask_transcribed hasked
    _ = _ := by rw [List.append_assoc, List.singleton_append]

theorem Executed.guarded {result : ScenarioResult} {failure : Option Failure}
    (hexecuted : Executed pool.transcribed config scenario before (result, failure) after) :
    ∃ made, after.transcript = before.transcript ++ made ∧
      Guarded (Seed.ofSettings config.session) made failure := by
  cases hexecuted with
  | refused hopen _ =>
      have htranscript := openPage_transcribed hopen
      exact ⟨[], htranscript.trans (List.append_nil _).symm, .refused⟩
  | @completed handle opened stage moment released _ hopen hperform hclose _ =>
      obtain ⟨own, hown, hgate⟩ := performed_gated hopen hperform
      refine ⟨own ++ [⟨.close, some released⟩], ?_, .performed hgate rfl⟩
      calc
        moment.transcript = stage.setting.transcript ++ [⟨.close, some released⟩] :=
          Run.ask_transcribed hclose
        _ = _ := by rw [hown, List.append_assoc]
  | @aborted handle opened stage cause shot shown moment released _ hopen hperform hcapture
      hclose _ =>
      obtain ⟨own, hown, hgate⟩ := performed_gated hopen hperform
      obtain ⟨image, htranscript⟩ := shown_transcribed hcapture hclose
      refine ⟨own ++ [⟨.screenshot, some image⟩, ⟨.close, some released⟩], ?_,
        .performed hgate rfl⟩
      rw [hown, List.append_assoc] at htranscript
      exact htranscript

/-- Writing down what is asked and answered changes nothing.  Where the session is not
valid, nothing is asked of a page but the screenshot of the failure and its closing.
Otherwise the session is installed first, and if that fails it ends the scenario.  The
first navigation that is made is followed by the reading of the session, entry by entry,
which aborts the scenario at the first entry that is not as it was installed; only after
all of them were does another step ask anything, and the session is not read again. -/
theorem session_guards_scenario (pool : Pool σ η) (config : Configuration)
    (scenario : Scenario) :
    (∀ before : Setting (Transcribed σ),
      execute pool config scenario before.untranscribed =
        (execute pool.transcribed config scenario before).map fun ended =>
          (ended.1, ended.2.untranscribed)) ∧
    (∀ (before after : Setting (Transcribed σ))
      (outcome : Except Failure (ScenarioResult × Option Failure)),
      execute pool.transcribed config scenario before = some (outcome, after) →
      ∃ result failure made, outcome = .ok (result, failure) ∧
        after.transcript = before.transcript ++ made ∧
        Guarded (Seed.ofSettings config.session) made failure) ∧
    ((∀ handle, (pool.page handle).Answers) → 1 ≤ config.timeouts.poll.toNat →
      ∀ before : Setting (Transcribed σ),
      ∃ outcome after,
        execute pool.transcribed config scenario before = some (outcome, after)) := by
  refine ⟨execute_untranscribed pool config scenario, ?_, ?_⟩
  · intro before after outcome hended
    obtain ⟨⟨result, failure⟩, houtcome, hexecuted⟩ := execute_cases hended
    obtain ⟨made, htranscript, hguarded⟩ := hexecuted.guarded
    exact ⟨result, failure, made, houtcome, htranscript, hguarded⟩
  · intro hanswers hpause before
    have hpools : Pool.Lockstep False Eq pool.transcribed pool.transcribed :=
      Pool.lockstep_of_answers fun handle => (hanswers handle).transcribed
    exact (execute_alike hpools config (.inr hpause) scenario).ends (.refl before)

/-- A page that breaks after the installation keeps to the gate, and so does a model page,
on which a scenario comes to its end. -/
theorem broken_page_guarded :
    (∃ result failure after made,
      execute brokenPool.transcribed {} ⟨"visit", "", [.navigate "/desktop"]⟩
        ⟨⟨⟨(), []⟩, 0⟩, .empty, []⟩ = some (.ok (result, failure), after) ∧
      after.transcript = made ∧ Guarded (Seed.ofSettings {}) made failure) ∧
    (∃ result after made,
      execute (Model.pool {} false).transcribed {}
        ⟨"visit", "", [.navigate "/desktop", .assertNotRedirected "home"]⟩
        ⟨⟨⟨{}, []⟩, 0⟩, .empty, []⟩ = some (.ok (result, none), after) ∧
      after.transcript = made ∧ Guarded (Seed.ofSettings {}) made none) := by
  constructor
  · obtain ⟨_, hguarded, hends⟩ :=
      session_guards_scenario brokenPool {} ⟨"visit", "", [.navigate "/desktop"]⟩
    obtain ⟨outcome, after, hended⟩ := hends brokenPool_answers (by decide) _
    obtain ⟨result, failure, made, rfl, htranscript, hmade⟩ := hguarded _ _ _ hended
    exact ⟨result, failure, after, made, hended, htranscript, hmade⟩
  · obtain ⟨_, hguarded, _⟩ := session_guards_scenario (Model.pool {} false) {}
      ⟨"visit", "", [.navigate "/desktop", .assertNotRedirected "home"]⟩
    have hends : (execute (Model.pool {} false).transcribed {}
        ⟨"visit", "", [.navigate "/desktop", .assertNotRedirected "home"]⟩
        ⟨⟨⟨{}, []⟩, 0⟩, .empty, []⟩).any (fun ended =>
          ended.1.toOption.any fun executed => executed.2.isNone) := by decide +kernel
    obtain ⟨⟨outcome, after⟩, hended, hcompleted⟩ := (Option.any_eq_true _ _).mp hends
    obtain ⟨result, failure, made, rfl, htranscript, hmade⟩ := hguarded _ _ _ hended
    obtain rfl : failure = none := by simpa [Except.toOption] using hcompleted
    exact ⟨result, after, made, hended, htranscript, hmade⟩

end Harness

end DesktopTrial
