import DesktopTrial.Proofs.Scenario.Notes

/-!
# What steps announce

A step announces its checks and its checkpoint by name.  A step that is taken to its
end notes exactly what it announces.  A step that fails has noted what those of its
parts announce that were taken before: a step that probes regions has one part for
each region, every other step is its only part.
-/

namespace DesktopTrial

namespace Step

def checkNames : Step → List String
  | .assertVisible name _ => [name]
  | .assertText name _ _ _ => [name]
  | .assertCount name _ _ => [name]
  | .assertCentered name _ => [name]
  | .assertNotRedirected name => [name]
  | .probeRegions probes => probes.map RegionProbe.checkName
  | _ => []

def checkpointNames : Step → List String
  | .checkpoint name => [name]
  | _ => []

/-- The parts of a step that note at most once each. -/
def parts : Step → List Step
  | .probeRegions probes => probes.map fun probe => .probeRegions [probe]
  | step => [step]

theorem checkNames_parts (step : Step) : step.parts.flatMap checkNames = step.checkNames := by
  cases step with
  | probeRegions probes =>
      rw [parts, List.flatMap_map, checkNames, List.map_eq_flatMap]
      rfl
  | _ => rfl

theorem checkpointNames_parts (step : Step) :
    step.parts.flatMap checkpointNames = step.checkpointNames := by
  cases step with
  | probeRegions probes => simp [parts, checkpointNames]
  | _ => rfl

end Step

variable {σ α : Type}

namespace Stage

/-- Exactly what the steps announce was noted, in their order. -/
def NotedAll (steps : List Step) (before after : Stage σ) : Prop :=
  ∃ notes, Noted notes before after ∧
    (notes.filterMap Note.check?).map (·.name) = steps.flatMap Step.checkNames ∧
    (notes.filterMap Note.checkpoint?).map (·.name) = steps.flatMap Step.checkpointNames

theorem NotedAll.nil (stage : Stage σ) : NotedAll [] stage stage := ⟨[], .refl stage, rfl, rfl⟩

theorem NotedAll.append {before middle after : Stage σ} {steps steps' : List Step}
    (hfirst : NotedAll steps before middle) (hrest : NotedAll steps' middle after) :
    NotedAll (steps ++ steps') before after := by
  obtain ⟨notes, hnoted, hchecks, hcheckpoints⟩ := hfirst
  obtain ⟨notes', hnoted', hchecks', hcheckpoints'⟩ := hrest
  refine ⟨notes ++ notes', hnoted.trans hnoted', ?_, ?_⟩
  · rw [List.filterMap_append, List.map_append, hchecks, hchecks', List.flatMap_append]
  · rw [List.filterMap_append, List.map_append, hcheckpoints, hcheckpoints',
      List.flatMap_append]

/-- The run notes nothing, whether it fails or not. -/
def Silent (run : Run (Stage σ) α) : Prop :=
  ∀ before after outcome, run before = some (outcome, after) → Noted [] before after

namespace Silent

theorem pure (value : α) : Silent (pure value : Run (Stage σ) α) := by
  intro before after outcome hended
  cases hended
  exact .refl before

theorem bind {β : Type} {run : Run (Stage σ) α} {next : α → Run (Stage σ) β}
    (hrun : Silent run) (hnext : ∀ value, Silent (next value)) : Silent (run >>= next) := by
  intro before after outcome hended
  obtain ⟨failure, middle, hfailed, hoverall⟩ | ⟨value, middle, hfirst, hrest⟩ :=
    Run.bind_eq_some hended
  · cases hoverall
    exact hrun _ _ _ hfailed
  · exact (hrun _ _ _ hfirst).trans (hnext value _ _ _ hrest)

theorem onPage (run : Run (Moment σ) α) : Silent (Stage.onPage run) := by
  intro before after outcome hended
  obtain ⟨moment, _, rfl⟩ := onPage_eq_some hended
  exact ⟨by simp, rfl⟩

theorem capture (page : Page σ) (path : String) :
    Silent (Stage.onSetting (Setting.capture page path)) := by
  intro before after outcome hended
  obtain ⟨setting, hcapture, rfl⟩ := onSetting_eq_some hended
  obtain ⟨_, moment, files, _, rfl⟩ := Setting.capture_eq_some hcapture
  exact ⟨by simp, rfl⟩

theorem confirmOnce (page : Page σ) (seed : Seed) : Silent (Stage.confirmOnce page seed) := by
  intro before after outcome hended
  rw [Stage.confirmOnce, Run.bind_apply, Run.get_apply, Run.proceed_ok] at hended
  by_cases hconfirmed : before.confirmed = true
  · rw [hconfirmed] at hended
    exact pure _ _ _ _ hended
  · rw [Bool.eq_false_iff.mpr hconfirmed] at hended
    refine bind (onPage _) (fun _ => ?_) _ _ _ hended
    intro before after outcome hended
    cases hended
    exact ⟨by simp, rfl⟩

end Silent

/-- The run notes what the step announces, or fails and notes nothing. -/
structure Notes (step : Step) (run : Run (Stage σ) Unit) : Prop where
  taken : ∀ before after, run before = some (.ok (), after) → NotedAll [step] before after
  failed : ∀ before after failure, run before = some (.error failure, after) →
    Noted [] before after

namespace Notes

theorem of_silent {step : Step} {run : Run (Stage σ) Unit} (hsilent : Silent run)
    (hchecks : step.checkNames = []) (hcheckpoints : step.checkpointNames = []) :
    Notes step run where
  taken before after hended :=
    ⟨[], hsilent _ _ _ hended, by simp [hchecks], by simp [hcheckpoints]⟩
  failed before after failure hended := hsilent _ _ _ hended

theorem of_check {step : Step} {name : String} {check : Run (Moment σ) Outcome}
    (hchecks : step.checkNames = [name]) (hcheckpoints : step.checkpointNames = []) :
    Notes step (Stage.checkAs name check) where
  taken before after hended := by
    obtain ⟨outcome, middle, hchecked, hrecorded⟩ := Run.bind_eq_ok hended
    have hquiet := Silent.onPage _ _ _ _ hchecked
    have hnoted := hquiet.trans (.single (.check ⟨name, outcome.passed, outcome.detail⟩) middle)
    cases hrecorded
    refine ⟨_, hnoted, ?_, ?_⟩
    · simp [hchecks, Note.check?]
    · simp [hcheckpoints, Note.checkpoint?]
  failed before after failure hended := by
    rcases Run.bind_eq_some hended with ⟨_, _, hfailed, hoverall⟩ | ⟨_, _, _, himpossible⟩
    · cases hoverall
      exact Silent.onPage _ _ _ _ hfailed
    · cases himpossible

theorem of_checkpoint (page : Page σ) (name path : String) :
    Notes (.checkpoint name) (Stage.checkpoint page name path) where
  taken before after hended := by
    obtain ⟨_, middle, hcaptured, hrecorded⟩ := Run.bind_eq_ok hended
    have hquiet := Silent.capture _ _ _ _ _ hcaptured
    have hnoted := hquiet.trans (.single (.checkpoint ⟨name, path⟩) middle)
    cases hrecorded
    exact ⟨_, hnoted, rfl, rfl⟩
  failed before after failure hended := by
    rcases Run.bind_eq_some hended with ⟨_, _, hfailed, hoverall⟩ | ⟨_, _, _, himpossible⟩
    · cases hoverall
      exact Silent.capture _ _ _ _ _ hfailed
    · cases himpossible

end Notes

theorem take_probe (page : Page σ) (config : Configuration) (probe : RegionProbe) :
    (Step.probeRegions [probe]).take page config =
      Stage.checkAs probe.checkName (probe.check page config.menuHandling) :=
  bind_pure_unit

/-- A part of a step notes what it announces, or fails and notes nothing. -/
theorem notes_part (page : Page σ) (config : Configuration) {step part : Step}
    (hpart : part ∈ step.parts) : Notes part (part.take page config) := by
  cases step with
  | navigate path =>
      obtain rfl := List.mem_singleton.mp hpart
      refine .of_silent ?_ rfl rfl
      exact (Silent.onPage _).bind fun _ => Silent.confirmOnce _ _
  | awaitReady condition =>
      obtain rfl := List.mem_singleton.mp hpart
      exact .of_silent ((Silent.onPage _).bind fun _ => .pure _) rfl rfl
  | click target =>
      obtain rfl := List.mem_singleton.mp hpart
      exact .of_silent (Silent.onPage _) rfl rfl
  | settle =>
      obtain rfl := List.mem_singleton.mp hpart
      exact .of_silent (Silent.onPage _) rfl rfl
  | probeRegions probes =>
      obtain ⟨probe, _, rfl⟩ := List.mem_map.mp hpart
      rw [take_probe]
      exact .of_check rfl rfl
  | checkpoint name =>
      obtain rfl := List.mem_singleton.mp hpart
      exact .of_checkpoint _ _ _
  | _ =>
      obtain rfl := List.mem_singleton.mp hpart
      exact .of_check rfl rfl

end Stage

/-! ## Lists of steps -/

/-- Taking a step is taking its parts in order. -/
theorem Step.take_parts (page : Page σ) (config : Configuration) (step : Step) :
    step.take page config = step.parts.forM fun part => part.take page config := by
  cases step with
  | probeRegions probes =>
      simp only [Step.parts, Step.take, List.forM_eq_forM, List.forM_map]
      exact congrArg (forM probes) (funext fun probe => (Stage.take_probe page config probe).symm)
  | _ => exact bind_pure_unit.symm

namespace Stage

theorem NotedAll.then_nothing {steps : List Step} {before middle after : Stage σ}
    (hnoted : NotedAll steps before middle) (hnothing : Noted [] middle after) :
    NotedAll steps before after := by
  have hrest : NotedAll [] middle after := ⟨[], hnothing, rfl, rfl⟩
  have hall := hnoted.append hrest
  rwa [List.append_nil] at hall

theorem notedAll_forM {steps : List Step} {take : Step → Run (Stage σ) Unit}
    (hstep : ∀ step ∈ steps, ∀ before after, take step before = some (.ok (), after) →
      NotedAll [step] before after)
    {before after : Stage σ} (hended : steps.forM take before = some (.ok (), after)) :
    NotedAll steps before after := by
  induction steps generalizing before with
  | nil =>
      cases hended
      exact .nil _
  | cons step steps ih =>
      rw [Run.forM_cons] at hended
      obtain ⟨_, middle, hfirst, hrest⟩ := Run.bind_eq_ok hended
      have hone := hstep step (by simp) _ _ hfirst
      have hothers := ih (fun other hother => hstep other (by simp [hother])) hrest
      exact hone.append hothers

variable {page : Page σ} {config : Configuration} {before after : Stage σ}

theorem noted_parts {step : Step} {parts : List Step} (hparts : ∀ part ∈ parts, part ∈ step.parts)
    (hended : (parts.forM fun part => part.take page config) before = some (.ok (), after)) :
    NotedAll parts before after := by
  apply notedAll_forM _ hended
  intro part hpart
  exact (notes_part page config (hparts part hpart)).taken

/-- A step that is taken to its end notes exactly what it announces. -/
theorem noted_step {step : Step} (hended : step.take page config before = some (.ok (), after)) :
    NotedAll [step] before after := by
  rw [Step.take_parts] at hended
  obtain ⟨notes, hnoted, hchecks, hcheckpoints⟩ := noted_parts (fun _ hpart => hpart) hended
  refine ⟨notes, hnoted, ?_, ?_⟩
  · rw [hchecks, Step.checkNames_parts, List.flatMap_singleton]
  · rw [hcheckpoints, Step.checkpointNames_parts, List.flatMap_singleton]

/-- Steps that are taken to their end note exactly what they announce, in order. -/
theorem noted_steps {steps : List Step}
    (hended : (steps.forM fun step => step.take page config) before = some (.ok (), after)) :
    NotedAll steps before after :=
  notedAll_forM (fun _ _ _ _ htaken => noted_step htaken) hended

/-- A step that fails has noted what the parts before the failing one announce. -/
theorem noted_failed_step {step : Step} {failure : Failure}
    (hended : step.take page config before = some (.error failure, after)) :
    ∃ done part reached,
      Run.StopsAt (fun part => part.take page config) step.parts before done part reached
        failure after ∧
      NotedAll (step.parts.take done) before after := by
  rw [Step.take_parts] at hended
  obtain ⟨done, part, reached, hstops⟩ := Run.forM_eq_error hended
  have hnoted := noted_parts (fun _ hmember => List.mem_of_mem_take hmember) hstops.taken
  have hpart := notes_part page config (List.mem_of_getElem? hstops.found)
  have hnothing := hpart.failed _ _ _ hstops.failed
  exact ⟨done, part, reached, hstops, hnoted.then_nothing hnothing⟩

/-- Whatever becomes of a scenario, what it has told it has also recorded. -/
theorem noted_perform {scenario : Scenario} {outcome : Except Failure Unit}
    (hended : scenario.perform page config before = some (outcome, after)) :
    ∃ notes, Noted notes before after := by
  obtain ⟨failure, _, hfailed, hoverall⟩ | ⟨_, installed, hinstalled, hsteps⟩ :=
    Run.bind_eq_some hended
  · cases hoverall
    exact ⟨[], Silent.onPage _ _ _ _ hfailed⟩
  have hnothing := Silent.onPage _ _ _ _ hinstalled
  cases outcome with
  | ok value =>
      obtain ⟨notes, hnoted, _⟩ := noted_steps hsteps
      exact ⟨_, hnothing.trans hnoted⟩
  | error failure =>
      obtain ⟨k, step, reached, hstops⟩ := Run.forM_eq_error hsteps
      obtain ⟨notes, hnoted, _⟩ := noted_steps hstops.taken
      obtain ⟨_, _, _, _, notes', hnoted', _⟩ := noted_failed_step hstops.failed
      exact ⟨_, hnothing.trans (hnoted.trans hnoted')⟩

end Stage

end DesktopTrial
