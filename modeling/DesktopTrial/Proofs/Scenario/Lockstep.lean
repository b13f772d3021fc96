import DesktopTrial.Proofs.Page.Lockstep
import DesktopTrial.Scenario.Runner

/-!
# Scenarios in lockstep

A scenario does the same on two pages that answer alike: it records and tells the
same, leaves the same files and fails with the same failure.
-/

namespace DesktopTrial

variable {σ τ α : Type} {hangs : Prop} {allowed : Call → Prop}
variable {R : Moment σ → Moment τ → Prop} {left : Page σ} {right : Page τ}
variable {paths : String → Prop} {S : Setting σ → Setting τ → Prop}

/-- A relation between settings on which scenarios do the same: their pages are related, the same
may be told on both sides, and a file with one of these paths is written on both or on neither. -/
structure Setting.Lockstep (hangs : Prop) (R : Moment σ → Moment τ → Prop)
    (paths : String → Prop) (S : Setting σ → Setting τ → Prop) : Prop where
  moment : ∀ {s t}, S s t → R s.moment t.moment
  withMoment : ∀ {s t m n}, S s t → R m n → S { s with moment := m } { t with moment := n }
  telling : ∀ {s t} (event : Event), S s t →
    S { s with events := s.events ++ [event] } { t with events := t.events ++ [event] }
  save : ∀ {path : String} (contents : ByteArray), paths path →
    Run.Lockstep hangs S (Setting.onFiles (Files.save path contents))
      (Setting.onFiles (Files.save path contents))

/-- Related moments, with the same files and the same events told. -/
structure Setting.Alike (R : Moment σ → Moment τ → Prop) (s : Setting σ) (t : Setting τ) :
    Prop where
  moment : R s.moment t.moment
  files : s.files = t.files
  events : s.events = t.events

/-- Related settings, with the same result so far.  How the confirmations of the session
are related is left open: few steps depend on them. -/
structure Stage.Alike (S : Setting σ → Setting τ → Prop) (C : Bool → Bool → Prop) (s : Stage σ)
    (t : Stage τ) : Prop where
  setting : S s.setting t.setting
  confirmed : C s.confirmed t.confirmed
  result : s.result = t.result

/-- Settings are alike for what one side forgets when they are the same but for that. -/
theorem Setting.alike_forget (forget : Moment σ → Moment τ) :
    Setting.Alike (fun m n => forget m = n) =
      fun s t => (⟨forget s.moment, s.files, s.events⟩ : Setting τ) = t := by
  funext s t
  apply propext
  constructor
  · intro halike
    rw [halike.moment, halike.files, halike.events]
  · rintro rfl
    exact ⟨rfl, rfl, rfl⟩

/-- Work on files does the same where the files are the same. -/
theorem Setting.Alike.onFiles (work : Files.Work α) :
    Run.Lockstep hangs (Setting.Alike R) (Setting.onFiles work) (Setting.onFiles work) := by
  intro s t halike
  rw [Setting.onFiles, Setting.onFiles, halike.files]
  obtain ⟨outcome, files⟩ := work t.files
  cases outcome with
  | error e => exact .ended _ ⟨halike.moment, rfl, halike.events⟩
  | ok value => exact .ended _ ⟨halike.moment, rfl, halike.events⟩

theorem Setting.Alike.lockstep : Setting.Lockstep hangs R (fun _ => True) (Setting.Alike R) where
  moment halike := halike.moment
  withMoment halike hmoment := ⟨hmoment, halike.files, halike.events⟩
  telling event halike := ⟨halike.moment, halike.files, by rw [halike.events]⟩
  save contents _ := Setting.Alike.onFiles _

namespace Setting.Lockstep

variable (hsettings : Setting.Lockstep hangs R paths S)
include hsettings

theorem onPage {run : Run (Moment σ) α} {run' : Run (Moment τ) α}
    (hrun : Run.Lockstep hangs R run run') :
    Run.Lockstep hangs S (Setting.onPage run) (Setting.onPage run') :=
  .on (fun _ _ hrelated => hsettings.moment hrelated)
    (fun _ _ _ _ hrelated hmoment => hsettings.withMoment hrelated hmoment) hrun

theorem tell (event : Event) :
    Run.Lockstep hangs S (Setting.tell event) (Setting.tell event) :=
  .modify fun _ _ hrelated => hsettings.telling event hrelated

theorem capture (hpages : Page.Lockstep hangs allowed R left right)
    (hscreenshot : allowed .screenshot) {path : String} (hpath : paths path) :
    Run.Lockstep hangs S (Setting.capture left path) (Setting.capture right path) :=
  (hsettings.onPage (hpages.ask hscreenshot)).bind fun image => hsettings.save image hpath

end Setting.Lockstep

namespace Stage.Alike

variable {C : Bool → Bool → Prop}

theorem onSetting {run : Run (Setting σ) α} {run' : Run (Setting τ) α}
    (hrun : Run.Lockstep hangs S run run') :
    Run.Lockstep hangs (Stage.Alike S C) (Stage.onSetting run) (Stage.onSetting run') :=
  .on (fun _ _ halike => halike.setting)
    (fun _ _ _ _ halike hsetting => ⟨hsetting, halike.confirmed, halike.result⟩) hrun

variable (hsettings : Setting.Lockstep hangs R paths S)
include hsettings

theorem onPage {run : Run (Moment σ) α} {run' : Run (Moment τ) α}
    (hrun : Run.Lockstep hangs R run run') :
    Run.Lockstep hangs (Stage.Alike S C) (Stage.onPage run) (Stage.onPage run') :=
  onSetting (hsettings.onPage hrun)

/-- Something is told of the scenario and added to its result. -/
theorem tellAndAdd (event : String → Event) (add : ScenarioResult → ScenarioResult) :
    Run.Lockstep hangs (Stage.Alike S C)
      (do
        Stage.onSetting (Setting.tell (event (← get).result.scenario))
        modify fun stage => { stage with result := add stage.result })
      (do
        Stage.onSetting (Setting.tell (event (← get).result.scenario))
        modify fun stage => { stage with result := add stage.result }) := by
  apply Run.Lockstep.get_bind
  intro s t halike
  rw [halike.result]
  apply (onSetting (hsettings.tell _)).bind
  intro _
  exact .modify fun _ _ halike => ⟨halike.setting, halike.confirmed, by rw [halike.result]⟩

theorem record (name : String) (outcome : Outcome) :
    Run.Lockstep hangs (Stage.Alike S C) (Stage.record name outcome)
      (Stage.record name outcome) :=
  let check : CheckRecord := ⟨name, outcome.passed, outcome.detail⟩
  tellAndAdd hsettings (.check · check) fun result =>
    { result with checks := result.checks ++ [check] }

theorem checkAs (name : String) {check : Run (Moment σ) Outcome}
    {check' : Run (Moment τ) Outcome} (hcheck : Run.Lockstep hangs R check check') :
    Run.Lockstep hangs (Stage.Alike S C) (Stage.checkAs name check)
      (Stage.checkAs name check') :=
  (onPage hsettings hcheck).bind fun outcome => record hsettings name outcome

theorem confirmOnce (hpages : Page.Lockstep hangs allowed R left right)
    (hread : ∀ key, allowed (.readStorage key)) (seed : Seed) :
    Run.Lockstep hangs (Stage.Alike S Eq) (Stage.confirmOnce left seed)
      (Stage.confirmOnce right seed) := by
  apply Run.Lockstep.get_bind
  intro s t halike
  rw [halike.confirmed]
  refine .ite ?_ (.pure _)
  apply (onPage hsettings (hpages.verify seed hread)).bind
  intro _
  exact .modify fun _ _ halike => ⟨halike.setting, rfl, halike.result⟩

theorem checkpoint (hpages : Page.Lockstep hangs allowed R left right)
    (hscreenshot : allowed .screenshot) (name : String) {path : String} (hpath : paths path) :
    Run.Lockstep hangs (Stage.Alike S C) (Stage.checkpoint left name path)
      (Stage.checkpoint right name path) :=
  (onSetting (hsettings.capture hpages hscreenshot hpath)).bind fun _ =>
    tellAndAdd hsettings (.checkpoint · ⟨name, path⟩) fun result =>
      { result with
        screenshots := result.screenshots ++ [⟨name, path⟩], lastScreenshot := some path }

end Stage.Alike

/-- The calls that a scenario makes on its page. -/
def Call.isOwn : Call → Bool
  | .close => false
  | _ => true

def Step.isNavigation : Step → Bool
  | .navigate _ => true
  | _ => false

def Step.artifacts (config : Configuration) : Step → List String
  | .checkpoint name => [config.screenshotPath name]
  | _ => []

def Scenario.artifacts (config : Configuration) (scenario : Scenario) : List String :=
  scenario.steps.flatMap fun step => step.artifacts config

section Scenario

variable (hsettings : Setting.Lockstep hangs R paths S)
  (hpages : Page.Lockstep hangs allowed R left right)
include hsettings hpages

/-- A step other than a navigation makes everyday calls only, and has nothing to do with
the confirmation of the session. -/
theorem Step.take_alike_everyday {C : Bool → Bool → Prop}
    (heveryday : ∀ call : Call, call.isEveryday = true → allowed call) (config : Configuration)
    (hpatience : hangs ∨ 1 ≤ config.timeouts.patience.interval) (step : Step)
    (hstep : step.isNavigation = false) (hpaths : ∀ path ∈ step.artifacts config, paths path) :
    Run.Lockstep hangs (Stage.Alike S C) (step.take left config) (step.take right config) := by
  cases step with
  | navigate path => cases hstep
  | awaitReady condition =>
      refine (Stage.Alike.onPage hsettings ?_).bind fun _ => .pure _
      exact hpages.awaitReady heveryday condition _ hpatience
  | click target =>
      refine Stage.Alike.onPage hsettings ?_
      apply (hpages.awaitVisible heveryday target _ hpatience).bind
      intro box
      exact hpages.ask (heveryday _ rfl)
  | settle => exact Stage.Alike.onPage hsettings (hpages.pause _)
  | assertVisible name target =>
      exact Stage.Alike.checkAs hsettings name (hpages.isVisible heveryday target)
  | assertText name scope wanted occurrence =>
      exact Stage.Alike.checkAs hsettings name (hpages.isVisible heveryday _)
  | assertCount name target count =>
      exact Stage.Alike.checkAs hsettings name (hpages.hasCount heveryday target count)
  | assertCentered name target =>
      exact Stage.Alike.checkAs hsettings name (hpages.isCentered heveryday target _)
  | assertNotRedirected name =>
      exact Stage.Alike.checkAs hsettings name (hpages.isElsewhere heveryday _)
  | probeRegions probes =>
      refine .forM fun probe _ => Stage.Alike.checkAs hsettings _ ?_
      exact hpages.check (fun _ => heveryday _ rfl) (fun _ => heveryday _ rfl) probe _
        (heveryday _ rfl)
  | checkpoint name =>
      exact Stage.Alike.checkpoint hsettings hpages (heveryday _ rfl) name
        (hpaths _ List.mem_cons_self)

variable (hown : ∀ call : Call, call.isOwn = true → allowed call) (config : Configuration)
  (hpatience : hangs ∨ 1 ≤ config.timeouts.patience.interval)
include hown hpatience

theorem Step.take_alike (step : Step) (hpaths : ∀ path ∈ step.artifacts config, paths path) :
    Run.Lockstep hangs (Stage.Alike S Eq) (step.take left config) (step.take right config) := by
  cases hstep : step.isNavigation with
  | false =>
      refine Step.take_alike_everyday hsettings hpages (fun call hcall => ?_) config hpatience step
        hstep hpaths
      exact hown call (by cases call <;> first | rfl | contradiction)
  | true =>
      cases step with
      | navigate path =>
          apply (Stage.Alike.onPage hsettings (hpages.ask (hown _ rfl))).bind
          intro _
          exact Stage.Alike.confirmOnce hsettings hpages (fun key => hown _ rfl) _
      | _ => cases hstep

theorem Scenario.perform_alike (scenario : Scenario)
    (hpaths : ∀ path ∈ scenario.artifacts config, paths path) :
    Run.Lockstep hangs (Stage.Alike S Eq) (scenario.perform left config)
      (scenario.perform right config) := by
  apply (Stage.Alike.onPage hsettings (hpages.install _ fun entries => hown _ rfl)).bind
  intro _
  refine .forM fun step hstep => ?_
  refine Step.take_alike hsettings hpages hown config hpatience step fun path hpath => ?_
  exact hpaths path (List.mem_flatMap_of_mem hstep hpath)

end Scenario

end DesktopTrial
