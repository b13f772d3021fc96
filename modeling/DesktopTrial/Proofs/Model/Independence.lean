import DesktopTrial.Proofs.Files.Writes
import DesktopTrial.Proofs.Harness.Execution
import DesktopTrial.Proofs.Harness.Lockstep
import DesktopTrial.Proofs.Model.Pool
import Mathlib.Tactic.Choose

/-!
# Scenarios do not influence each other

On a model pool a scenario is executed as it would be alone, whatever pages were opened,
files written and events told before, as long as no file is refused.  What two executions
of a scenario have in common is the state of its page; it is carried from step to step.
-/

namespace DesktopTrial.Model

variable {app : App} {failing : Bool} {config : Configuration} {scenario : Scenario}

/-! ## The same page in two pools -/

/-- A page of one pool is in the state of a page of another. -/
def SamePage (handle handle' : Nat) (m n : Moment PoolState) : Prop :=
  ∃ state, m.page.pages[handle]? = some state ∧ n.page.pages[handle']? = some state

theorem SamePage.update {handle handle' : Nat} {m n : Moment PoolState} {before : PageState}
    (hbefore : m.page.pages[handle]? = some before)
    (hbefore' : n.page.pages[handle']? = some before) (duration : Nat) (after : PageState) :
    SamePage handle handle' (m.later duration (m.page.update handle before after))
      (n.later duration (n.page.update handle' before after)) :=
  ⟨after, by rw [Moment.later, PoolState.update_pages hbefore, if_pos rfl],
    by rw [Moment.later, PoolState.update_pages hbefore', if_pos rfl]⟩

/-- Pages in the same state answer alike, whatever their handles and the time. -/
theorem pageOf_alike (app : App) (handle handle' : Nat) :
    Page.Lockstep True (fun _ => True) (SamePage handle handle') (pageOf app handle)
      (pageOf app handle') where
  sleep m n duration hsame := hsame
  reply := by
    rintro m n call - ⟨state, hstate, hstate'⟩
    rw [pageOf_reply hstate, pageOf_reply hstate']
    exact .mapState fun latency _ after _ => .update hstate hstate' latency after
  abandon := by
    rintro m n locator duration - ⟨state, hstate, hstate'⟩
    rw [pageOf_abandon hstate, pageOf_abandon hstate']
    exact .update hstate hstate' duration state

/-! ## Two executions of a scenario -/

/-- Since the settings that two executions began with, the same was told on both sides, and the
files still take what they took. -/
structure Parallel (R : Moment PoolState → Moment PoolState → Prop) (paths paths' : List String)
    (before before' s t : Setting PoolState) : Prop where
  moment : R s.moment t.moment
  files : s.files.Takes paths
  files' : t.files.Takes paths'
  told : ∃ told, s.events = before.events ++ told ∧ t.events = before'.events ++ told

namespace Parallel

variable {R : Moment PoolState → Moment PoolState → Prop} {paths paths' : List String}
  {before before' : Setting PoolState}

theorem lockstep : Setting.Lockstep True R (fun path => path ∈ paths ∧ path ∈ paths')
    (Parallel R paths paths' before before') where
  moment hparallel := hparallel.moment
  withMoment hparallel hmoment := ⟨hmoment, hparallel.files, hparallel.files', hparallel.told⟩
  telling event hparallel := by
    obtain ⟨told, htold, htold'⟩ := hparallel.told
    refine ⟨hparallel.moment, hparallel.files, hparallel.files', told ++ [event], ?_, ?_⟩
    · rw [htold, List.append_assoc]
    · rw [htold', List.append_assoc]
  save contents hpath := by
    intro s t hparallel
    obtain ⟨after, hsaved, htakes⟩ := hparallel.files.save hpath.1 contents
    obtain ⟨after', hsaved', htakes'⟩ := hparallel.files'.save hpath.2 contents
    rw [Setting.onFiles, Setting.onFiles, hsaved, hsaved']
    exact .ended _ ⟨hparallel.moment, htakes, htakes', hparallel.told⟩

/-- The beginning of two executions. -/
theorem start {m n : Moment PoolState} (hmoment : R m n) (hfiles : before.files.Takes paths)
    (hfiles' : before'.files.Takes paths') (event : Event) :
    Parallel R paths paths' before before' { before.telling event with moment := m }
      { before'.telling event with moment := n } :=
  ⟨hmoment, hfiles, hfiles', [event], rfl, rfl⟩

end Parallel

/-- Two executions of a scenario tell the same and come to the same, on whatever pools and with
whatever files they begin. -/
theorem execute_parallel {paths paths' : List String} {before before' : Setting PoolState}
    (hfiles : before.files.Takes paths) (hfiles' : before'.files.Takes paths')
    (hpaths : ∀ path ∈ Harness.artifacts config scenario, path ∈ paths ∧ path ∈ paths') :
    Run.Alike True (Parallel (fun _ _ => True) paths paths' before before')
      (Harness.execute (pool app failing) config scenario before)
      (Harness.execute (pool app failing) config scenario before') := by
  cases failing with
  | true =>
      exact Harness.execute_alike_of_refused Parallel.lockstep
        (.start trivial hfiles hfiles' (.started scenario.name)) rfl rfl
  | false =>
      have hopened : SamePage before.moment.page.opened before'.moment.page.opened
          ⟨{ before.moment.page with pages := before.moment.page.pages ++ [.fresh app] },
            before.moment.clock⟩
          ⟨{ before'.moment.page with pages := before'.moment.page.pages ++ [.fresh app] },
            before'.moment.clock⟩ :=
        ⟨.fresh app, List.getElem?_concat_length, List.getElem?_concat_length⟩
      have halike : Run.Alike True (Parallel (SamePage _ _) paths paths' before before')
          (Harness.execute (pool app false) config scenario before)
          (Harness.execute (pool app false) config scenario before') :=
        Harness.execute_alike_of_opened Parallel.lockstep
          (.start hopened hfiles hfiles' (.started scenario.name)) (pageOf_alike app _ _)
          (.inl trivial) hpaths rfl rfl
      exact halike.imp fun _ _ _ _ _ hparallel =>
        ⟨trivial, hparallel.files, hparallel.files', hparallel.told⟩

/-! ## Runs of several scenarios -/

/-- From a setting on, work gives this result and tells these events, and leaves files that take
what they took; or, where nothing is given, it goes on for ever. -/
inductive Yields {α : Type} (paths : List String) (before : Setting PoolState) :
    Option (α × List Event) → Option (Except Failure α × Setting PoolState) → Prop where
  | endless : Yields paths before none none
  | ended (result : α) {told : List Event} {after : Setting PoolState} :
      after.files.Takes paths → after.events = before.events ++ told →
      Yields paths before (some (result, told)) (some (.ok result, after))

namespace Yields

variable {α β ι : Type} {paths : List String} {before : Setting PoolState}

theorem of_eq {given given' : Option (α × List Event)}
    {ended : Option (Except Failure α × Setting PoolState)} (hyields : Yields paths before given ended)
    (hsame : given' = given) : Yields paths before given' ended := by
  rw [hsame]
  exact hyields

/-- What is told of work that began without events. -/
theorem map_events {given : Option (α × List Event)}
    {ended : Option (Except Failure α × Setting PoolState)} (hyields : Yields paths before given ended)
    (hbefore : before.events = []) :
    ended.map (fun ended => (ended.1, ended.2.events)) =
      given.map fun own => (.ok own.1, own.2) := by
  cases hyields with
  | endless => rfl
  | ended result hfiles htold =>
      rw [hbefore, List.nil_append] at htold
      rw [Option.map_some, htold]
      rfl

theorem pure (result : α) (hfiles : before.files.Takes paths) :
    Yields paths before (some (result, [])) ((pure result : Run (Setting PoolState) α) before) :=
  .ended result hfiles (List.append_nil _).symm

theorem bind {given : Option (α × List Event)} {follows : α → Option (β × List Event)}
    {run : Run (Setting PoolState) α} {next : α → Run (Setting PoolState) β}
    (hrun : Yields paths before given (run before))
    (hnext : ∀ result after, after.files.Takes paths →
      Yields paths after (follows result) (next result after)) :
    Yields paths before
      (given.bind fun block => (follows block.1).map fun more => (more.1, block.2 ++ more.2))
      ((run >>= next) before) := by
  rw [Run.bind_apply]
  generalize run before = ended at hrun ⊢
  cases hrun with
  | endless => exact .endless
  | @ended result told after hfiles htold =>
      rw [Run.proceed_ok, Option.bind_some]
      have hrest := hnext result after hfiles
      generalize next result after = ended at hrest ⊢
      generalize follows result = follow at hrest ⊢
      cases hrest with
      | endless => exact .endless
      | @ended value more last hfiles' hmore =>
          exact .ended value hfiles' (by rw [hmore, htold, List.append_assoc])

/-- Work on items in turn gives all their results and tells all their events, in order. -/
theorem mapM {block : ι → Option (α × List Event)} {step : ι → Run (Setting PoolState) α}
    {items : List ι}
    (hstep : ∀ item ∈ items, ∀ before : Setting PoolState, before.files.Takes paths →
      Yields paths before (block item) (step item before))
    (hfiles : before.files.Takes paths) :
    Yields paths before
      ((items.mapM block).map fun blocks => (blocks.map (·.1), blocks.flatMap (·.2)))
      (items.mapM step before) := by
  induction items generalizing before with
  | nil => exact .pure [] hfiles
  | cons item items ih =>
      have hitem := hstep item List.mem_cons_self before hfiles
      have hitems := fun (after : Setting PoolState) (hafter : after.files.Takes paths) =>
        ih (fun other hother => hstep other (List.mem_cons_of_mem _ hother)) hafter
      have hall := hitem.bind fun result after hafter =>
        (hitems after hafter).bind fun results last hlast => .pure (result :: results) hlast
      rw [List.mapM_cons, List.mapM_cons]
      refine hall.of_eq ?_
      cases block item with
      | none => rfl
      | some first =>
          cases items.mapM block with
          | none => rfl
          | some rest => simp

end Yields

/-- What work gave and told that has ended without failing. -/
def block? {α : Type} :
    Option (Except Failure α × Setting PoolState) → Option (α × List Event)
  | some (.ok result, after) => some (result, after.events)
  | _ => none

/-- Of two executions in parallel, the one yields what the other, alone, gave and told. -/
theorem Parallel.yields {α : Type} {R : Moment PoolState → Moment PoolState → Prop}
    {paths paths' : List String} {start before : Setting PoolState}
    {alone ended : Option (Except Failure α × Setting PoolState)}
    (halike : Run.Alike True (Parallel R paths paths' start before) alone ended)
    (hok : ∀ outcome after, alone = some (outcome, after) → ∃ result, outcome = .ok result)
    (hstart : start.events = []) : Yields paths' before (block? alone) ended := by
  cases halike with
  | endless => exact .endless
  | @ended outcome after after' hparallel =>
      obtain ⟨result, rfl⟩ := hok outcome after rfl
      obtain ⟨told, htold, htold'⟩ := hparallel.told
      rw [hstart, List.nil_append] at htold
      rw [block?, htold]
      exact .ended result hparallel.files' htold'

/-- What a scenario comes to does not depend on the setting that it is executed in. -/
theorem execute_yields (app : App) (failing : Bool) (config : Configuration)
    (scenario : Scenario) :
    ∃ block : Option ((ScenarioResult × Option Failure) × List Event),
      ∀ (paths : List String) (before : Setting PoolState), before.files.Takes paths →
        (∀ path ∈ Harness.artifacts config scenario, path ∈ paths) →
        Yields paths before block (Harness.execute (pool app failing) config scenario before) := by
  by_cases hwritable : ∃ files : Files, files.Takes (Harness.artifacts config scenario)
  · obtain ⟨files, htakes⟩ := hwritable
    -- Every execution is compared with the one on a fresh pool with these files.
    let start : Setting PoolState := ⟨⟨{}, 0⟩, files, []⟩
    refine ⟨block? (Harness.execute (pool app failing) config scenario start), ?_⟩
    intro paths before hfiles hpaths
    have halike : Run.Alike True (Parallel (fun _ _ => True) _ paths start before)
        (Harness.execute (pool app failing) config scenario start)
        (Harness.execute (pool app failing) config scenario before) :=
      execute_parallel htakes hfiles fun path hpath => ⟨hpath, hpaths path hpath⟩
    exact Parallel.yields halike
      (fun _ _ hended => (Harness.execute_cases hended).imp fun _ => And.left) rfl
  · exact ⟨none, fun paths before hfiles hpaths => absurd ⟨_, hfiles.mono hpaths⟩ hwritable⟩

theorem result_yields (app : App) (failing : Bool) (config : Configuration)
    (scenario : Scenario) :
    ∃ block : Option (ScenarioResult × List Event),
      ∀ (paths : List String) (before : Setting PoolState), before.files.Takes paths →
        (∀ path ∈ Harness.artifacts config scenario, path ∈ paths) →
        Yields paths before block
          ((do
            let (result, _) ← Harness.execute (pool app failing) config scenario
            pure result : Run (Setting PoolState) ScenarioResult) before) := by
  obtain ⟨block, hblock⟩ := execute_yields app failing config scenario
  refine ⟨block.map fun own => (own.1.1, own.2), fun paths before hfiles hpaths => ?_⟩
  have hresult := (hblock paths before hfiles hpaths).bind fun executed after hafter =>
    .pure executed.1 hafter
  refine hresult.of_eq ?_
  cases block with
  | none => rfl
  | some own => simp

theorem runAll_yields {block : Scenario → Option (ScenarioResult × List Event)}
    {scenarios : List Scenario} {paths : List String} {before : Setting PoolState}
    (hblock : ∀ scenario ∈ scenarios, ∀ before : Setting PoolState, before.files.Takes paths →
      Yields paths before (block scenario)
        ((do
          let (result, _) ← Harness.execute (pool app failing) config scenario
          pure result : Run (Setting PoolState) ScenarioResult) before))
    (hfiles : before.files.Takes paths) :
    Yields paths before
      ((scenarios.mapM block).map fun blocks =>
        ((⟨config.baseUrl, blocks.map (·.1)⟩ : Report), blocks.flatMap (·.2)))
      (Harness.runAll (pool app failing) config scenarios before) := by
  have hresults := (Yields.mapM hblock hfiles).bind fun results after hafter =>
    Yields.pure (⟨config.baseUrl, results⟩ : Report) hafter
  refine hresults.of_eq ?_
  cases scenarios.mapM block with
  | none => rfl
  | some blocks => simp

/-- Scenarios do not influence each other.  Every scenario has a result and events of its own, or
goes on for ever, whatever runs beside it: it comes to them when it is run alone on a fresh pool,
and a run of several scenarios reports all of their results and tells all of their events, in the
order of the scenarios.  The files have to take the artifacts. -/
theorem scenarios_independent (app : App) (failing : Bool) (config : Configuration) :
    ∃ block : Scenario → Option (ScenarioResult × List Event),
      (∀ (scenario : Scenario) (files : Files),
        files.Takes (Harness.artifacts config scenario) →
        (Harness.runAll (pool app failing) config [scenario] ⟨⟨{}, 0⟩, files, []⟩).map
            (fun ended => (ended.1, ended.2.events)) =
          (block scenario).map fun own => (.ok ⟨config.baseUrl, [own.1]⟩, own.2)) ∧
      ∀ (scenarios : List Scenario) (files : Files),
        files.Takes (scenarios.flatMap (Harness.artifacts config)) →
        (Harness.runAll (pool app failing) config scenarios ⟨⟨{}, 0⟩, files, []⟩).map
            (fun ended => (ended.1, ended.2.events)) =
          (scenarios.mapM block).map fun blocks =>
            (.ok ⟨config.baseUrl, blocks.map (·.1)⟩, blocks.flatMap (·.2)) := by
  choose block hblock using result_yields app failing config
  have hall (scenarios : List Scenario) (files : Files)
      (htakes : files.Takes (scenarios.flatMap (Harness.artifacts config))) :
      (Harness.runAll (pool app failing) config scenarios ⟨⟨{}, 0⟩, files, []⟩).map
          (fun ended => (ended.1, ended.2.events)) =
        (scenarios.mapM block).map fun blocks =>
          (.ok ⟨config.baseUrl, blocks.map (·.1)⟩, blocks.flatMap (·.2)) := by
    let start : Setting PoolState := ⟨⟨{}, 0⟩, files, []⟩
    have hyields : Yields _ start _ (Harness.runAll (pool app failing) config scenarios start) :=
      runAll_yields (fun scenario hscenario before hbefore =>
        hblock scenario _ before hbefore fun path hpath =>
          List.mem_flatMap_of_mem hscenario hpath) htakes
    rw [hyields.map_events rfl, Option.map_map]
    rfl
  refine ⟨block, ?_, hall⟩
  intro scenario files htakes
  rw [hall [scenario] files (by simpa using htakes)]
  cases hown : block scenario <;> simp [hown]

def artifactFiles : Files := ⟨[(["home", "verification"], .directory)]⟩

/-- Waits in vain for an element, and is aborted. -/
def lostVisit : Scenario := ⟨"lost", "", [.navigate "/desktop", .click (.css ".nothing")]⟩

theorem artifactFiles_take : artifactFiles.Takes (Harness.artifacts {} lostVisit) := by
  let written (contents : ByteArray) : Files :=
    ⟨(["home", "verification", "lost-error.png"], .file contents) :: artifactFiles.entries⟩
  exact .single written (fun _ => rfl) fun _ _ => rfl

/-- A scenario that is run twice has twice the result and tells twice the events that it has and
tells when it is run once. -/
theorem lostVisit_twice :
    ∃ result told,
      (Harness.runAll (pool desktop false) {} [lostVisit] ⟨⟨{}, 0⟩, artifactFiles, []⟩).map
          (fun ended => (ended.1, ended.2.events)) =
        some (.ok ⟨({} : Configuration).baseUrl, [result]⟩, told) ∧
      (Harness.runAll (pool desktop false) {} [lostVisit, lostVisit]
          ⟨⟨{}, 0⟩, artifactFiles, []⟩).map (fun ended => (ended.1, ended.2.events)) =
        some (.ok ⟨({} : Configuration).baseUrl, [result, result]⟩, told ++ told) := by
  have hends : (Harness.runAll (pool desktop false) {} [lostVisit]
      ⟨⟨{}, 0⟩, artifactFiles, []⟩).isSome = true := by
    decide +kernel
  obtain ⟨block, halone, hall⟩ := scenarios_independent desktop false {}
  have hone := halone lostVisit artifactFiles artifactFiles_take
  have htwo := hall [lostVisit, lostVisit] artifactFiles
    (artifactFiles_take.mono fun path hpath => by simpa using hpath)
  cases hblock : block lostVisit with
  | none =>
      rw [hblock, Option.map_none, Option.map_eq_none_iff] at hone
      rw [hone] at hends
      cases hends
  | some own =>
      refine ⟨own.1, own.2, by rw [hone, hblock]; rfl, ?_⟩
      rw [htwo]
      simp [hblock]

end DesktopTrial.Model
