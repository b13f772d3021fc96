import DesktopTrial.Proofs.Page.Transcript
import DesktopTrial.Proofs.Scenario.Setting

/-!
# The session is the gate to a scenario

A scenario installs its session before anything else.  The first navigation that is made
is followed by the reading of every entry of the session, and an entry that is not as it
was installed ends the scenario.  Afterwards the session is not read again.
-/

namespace DesktopTrial

variable {σ : Type}

/-! ## Transcripts of a session -/

/-- The entries of a session, as they are installed and read back. -/
def Seed.values (seed : Seed) : List (String × String) :=
  [("auth_token", seed.token), ("user", Json.compact (.ofDictionary seed.user))]

theorem Seed.entries_eq_ok {seed : Seed} {entries : Storage}
    (hentries : seed.entries = .ok entries) : entries.entries = seed.values := by
  rw [Seed.entries] at hentries
  cases hvalid : seed.validate with
  | error failure => simp [hvalid] at hentries
  | ok value =>
      simp only [hvalid, Except.ok.injEq] at hentries
      have hlater : ¬userKey < tokenKey := by decide +kernel
      have hother : userKey ≠ tokenKey := by decide +kernel
      rw [← hentries]
      simp only [Dictionary.ofList, Dictionary.insertAll, List.foldl_cons, List.foldl_nil,
        Dictionary.insert, Dictionary.empty, insertEntry, if_neg hlater, if_neg hother]
      rfl

/-- An everyday call, or a navigation. -/
def Call.isOrdinary : Call → Bool
  | .navigate _ => true
  | call => call.isEveryday

theorem Call.isOrdinary_of_isEveryday {call : Call} (heveryday : call.isEveryday = true) :
    call.isOrdinary = true := by
  cases call <;> first | rfl | exact heveryday

/-- An everyday call, or a navigation that failed. -/
def Exchange.Outside (exchange : Exchange) : Prop :=
  exchange.call.isEveryday = true ∨
    ∃ url failure, exchange = ⟨.navigate url, some (.error failure)⟩

namespace Session

/-- Every entry was read, and was as it was installed. -/
def readBack (values : List (String × String)) : List Exchange :=
  values.map fun value => ⟨.readStorage value.1, some (.ok (some value.2))⟩

/-- Entries were read in turn, and the last that was read was not as it was installed. -/
inductive Denied : List (String × String) → List Exchange → Prop where
  | here {key value : String} {values : List (String × String)}
      {answer : Except Failure (Option String)} :
      answer ≠ .ok (some value) →
      Denied ((key, value) :: values) [⟨.readStorage key, some answer⟩]
  | later {value : String × String} {values : List (String × String)} {made : List Exchange} :
      Denied values made → Denied (value :: values) (readBack [value] ++ made)

/-- What follows the first navigation that was made.  An entry that is not as it was
installed aborts the scenario.  If all of them are, ordinary calls may follow. -/
inductive Admission (values : List (String × String)) : List Exchange → Bool → Prop where
  | denied {made : List Exchange} : Denied values made → Admission values made true
  | granted {later : List Exchange} {aborted : Bool} :
      (∀ exchange ∈ later, exchange.call.isOrdinary = true) →
      Admission values (readBack values ++ later) aborted

/-- What follows the installation: no navigation is ever made, or the first one that is
made is followed by the admission. -/
inductive Entrance (values : List (String × String)) : List Exchange → Bool → Prop where
  | outside {made : List Exchange} {aborted : Bool} :
      (∀ exchange ∈ made, exchange.Outside) → Entrance values made aborted
  | admitted {outside inside : List Exchange} {aborted : Bool} {url : String} :
      (∀ exchange ∈ outside, exchange.Outside) → Admission values inside aborted →
      Entrance values (outside ++ ⟨.navigate url, some (.ok ())⟩ :: inside) aborted

/-- The calls of a scenario with a session, and whether the scenario was aborted.  A
session that is not valid is not installed, and nothing else is asked of the page. -/
inductive Gate (seed : Seed) : List Exchange → Bool → Prop where
  | invalid {failure : Failure} : seed.entries = .error failure → Gate seed [] true
  | refused {entries : Storage} {failure : Failure} :
      seed.entries = .ok entries →
      Gate seed [⟨.install entries, some (.error failure)⟩] true
  | installed {entries : Storage} {rest : List Exchange} {aborted : Bool} :
      seed.entries = .ok entries → entries.entries = seed.values →
      Entrance seed.values rest aborted →
      Gate seed (⟨.install entries, some (.ok ())⟩ :: rest) aborted

namespace Entrance

variable {values : List (String × String)} {made front : List Exchange} {aborted : Bool}

theorem nil : Entrance values [] aborted := .outside (List.forall_mem_nil _)

theorem enter {inside : List Exchange} (url : String)
    (hadmission : Admission values inside aborted) :
    Entrance values (⟨.navigate url, some (.ok ())⟩ :: inside) aborted :=
  .admitted (List.forall_mem_nil _) hadmission

/-- Whatever is asked before the first navigation is made may be asked in front. -/
theorem prepend (hfront : ∀ exchange ∈ front, exchange.Outside)
    (hentrance : Entrance values made aborted) : Entrance values (front ++ made) aborted := by
  cases hentrance with
  | outside hmade => exact .outside (List.forall_mem_append.mpr ⟨hfront, hmade⟩)
  | admitted houtside hadmission =>
      rw [← List.append_assoc]
      exact .admitted (List.forall_mem_append.mpr ⟨hfront, houtside⟩) hadmission

end Entrance

end Session

open Session (readBack Denied Admission Entrance)

/-! ## Installing the session and reading it back -/

section Verification

variable {page : Page σ} {before after : Moment (Transcribed σ)} {outcome : Except Failure Unit}

/-- A session is installed with one call, unless it is not valid. -/
theorem Seed.install_transcribed {seed : Seed}
    (hended : seed.install page.transcribed before = some (outcome, after)) :
    (∃ failure, seed.entries = .error failure ∧ outcome = .error failure ∧
      after.transcript = before.transcript) ∨
    ∃ entries, seed.entries = .ok entries ∧
      after.transcript = before.transcript ++ [⟨.install entries, some outcome⟩] := by
  rw [Seed.install, Run.ofExcept_bind_apply] at hended
  cases hentries : seed.entries with
  | error failure =>
      rw [hentries] at hended
      cases hended
      exact .inl ⟨failure, rfl, rfl, rfl⟩
  | ok entries =>
      rw [hentries, Run.proceed_ok] at hended
      exact .inr ⟨entries, rfl, Run.ask_transcribed hended⟩

/-- One entry is read once, and it is confirmed just when it is as it was installed. -/
theorem Seed.confirm_transcribed {key expected : String}
    (hended : Seed.confirm page.transcribed key expected before = some (outcome, after)) :
    ∃ answer : Except Failure (Option String),
      after.transcript = before.transcript ++ [⟨.readStorage key, some answer⟩] ∧
      (outcome = .ok () ↔ answer = .ok (some expected)) := by
  obtain ⟨failure, _, hfailed, hoverall⟩ | ⟨stored, _, hread, hrest⟩ := Run.bind_eq_some hended
  · cases hoverall
    exact ⟨_, Run.ask_transcribed hfailed, by simp⟩
  · have htranscript := Run.ask_transcribed hread
    cases stored with
    | none =>
        cases hrest
        exact ⟨_, htranscript, by simp⟩
    | some actual =>
        by_cases hactual : actual = expected
        · simp only [hactual, if_true] at hrest
          cases hrest
          exact ⟨_, htranscript, by simp [hactual]⟩
        · simp only [hactual, if_false] at hrest
          cases hrest
          exact ⟨_, htranscript, by simp [hactual]⟩

/-- Either every entry is confirmed, or the session is denied. -/
theorem Seed.confirmAll_transcribed {values : List (String × String)}
    (hended : (values.forM fun value => Seed.confirm page.transcribed value.1 value.2) before =
      some (outcome, after)) :
    ∃ made, after.transcript = before.transcript ++ made ∧
      (outcome = .ok () ∧ made = readBack values ∨
        ∃ failure, outcome = .error failure ∧ Denied values made) := by
  induction values generalizing before with
  | nil =>
      cases hended
      exact ⟨[], by simp, .inl ⟨rfl, rfl⟩⟩
  | cons value values ih =>
      rw [Run.forM_cons] at hended
      obtain ⟨failure, _, hfailed, hoverall⟩ | ⟨_, middle, hread, hrest⟩ :=
        Run.bind_eq_some hended
      · cases hoverall
        obtain ⟨answer, htranscript, hconfirmed⟩ := Seed.confirm_transcribed hfailed
        refine ⟨_, htranscript, .inr ⟨failure, rfl, .here ?_⟩⟩
        intro hanswer
        cases hconfirmed.mpr hanswer
      · obtain ⟨answer, hfirst, hconfirmed⟩ := Seed.confirm_transcribed hread
        obtain rfl := hconfirmed.mp rfl
        obtain ⟨made, hmade, hverdict⟩ := ih hrest
        refine ⟨readBack [value] ++ made, ?_, ?_⟩
        · rw [hmade, hfirst, List.append_assoc]
          rfl
        · obtain ⟨houtcome, rfl⟩ | ⟨failure, houtcome, hdenied⟩ := hverdict
          · exact .inl ⟨houtcome, rfl⟩
          · exact .inr ⟨failure, houtcome, .later hdenied⟩

theorem Seed.verify_transcribed {seed : Seed} {entries : Storage}
    (hentries : seed.entries = .ok entries)
    (hended : seed.verify page.transcribed before = some (outcome, after)) :
    ∃ made, after.transcript = before.transcript ++ made ∧
      (outcome = .ok () ∧ made = readBack seed.values ∨
        ∃ failure, outcome = .error failure ∧ Denied seed.values made) := by
  rw [Seed.verify, Run.ofExcept_bind_apply, hentries, Run.proceed_ok,
    Seed.entries_eq_ok hentries] at hended
  exact Seed.confirmAll_transcribed hended

end Verification

/-! ## The steps of a scenario -/

def Stage.transcript (stage : Stage (Transcribed σ)) : List Exchange :=
  stage.setting.moment.transcript

section Steps

variable {page : Page σ} {config : Configuration} {before after : Stage (Transcribed σ)}
  {outcome : Except Failure Unit}

/-- A step other than a navigation makes everyday calls and leaves the confirmation. -/
theorem Step.take_everyday {step : Step} (hstep : step.isNavigation = false)
    (hended : step.take page.transcribed config before = some (outcome, after)) :
    ∃ made, after.transcript = before.transcript ++ made ∧
      (∀ exchange ∈ made, exchange.call.isEveryday = true) ∧
      after.confirmed = before.confirmed := by
  have hpages := page.transcribed_made before.transcript fun call => call.isEveryday = true
  have hrun := Step.take_alike_everyday (C := fun c d => c = before.confirmed ∧ d = c)
    Setting.Alike.lockstep hpages (fun _ heveryday => heveryday) config (.inl trivial) step hstep
    fun _ _ => trivial
  have hafter := hrun.keeps ⟨⟨⟨rfl, .refl _⟩, rfl, rfl⟩, ⟨rfl, rfl⟩, rfl⟩ hended
  obtain ⟨made, hmade, htranscript⟩ := hafter.setting.moment.2
  exact ⟨made, htranscript, hmade, hafter.confirmed.1⟩

theorem Stage.confirmOnce_confirmed {seed : Seed} (hconfirmed : before.confirmed = true)
    (hended : Stage.confirmOnce page.transcribed seed before = some (outcome, after)) :
    outcome = .ok () ∧ after = before := by
  rw [Stage.confirmOnce, Run.bind_apply, Run.get_apply, Run.proceed_ok, hconfirmed] at hended
  cases hended
  exact ⟨rfl, rfl⟩

/-- The first confirmation reads the session back. -/
theorem Stage.confirmOnce_transcribed {seed : Seed} {entries : Storage}
    (hentries : seed.entries = .ok entries) (hconfirmed : before.confirmed = false)
    (hended : Stage.confirmOnce page.transcribed seed before = some (outcome, after)) :
    ∃ made, after.transcript = before.transcript ++ made ∧
      (outcome = .ok () ∧ after.confirmed = true ∧ made = readBack seed.values ∨
        ∃ failure, outcome = .error failure ∧ Denied seed.values made) := by
  rw [Stage.confirmOnce, Run.bind_apply, Run.get_apply, Run.proceed_ok, hconfirmed] at hended
  obtain ⟨failure, middle, hfailed, hoverall⟩ | ⟨_, middle, hverified, hrest⟩ :=
    Run.bind_eq_some hended
  · cases hoverall
    obtain ⟨moment, hverify, rfl⟩ := Stage.onPage_eq_some hfailed
    obtain ⟨made, htranscript, ⟨himpossible, _⟩ | hdenied⟩ :=
      Seed.verify_transcribed hentries hverify
    · cases himpossible
    · exact ⟨made, htranscript, .inr hdenied⟩
  · obtain ⟨moment, hverify, rfl⟩ := Stage.onPage_eq_some hverified
    cases hrest
    obtain ⟨made, htranscript, ⟨_, rfl⟩ | ⟨_, himpossible, _⟩⟩ :=
      Seed.verify_transcribed hentries hverify
    · exact ⟨_, htranscript, .inl ⟨rfl, rfl, rfl⟩⟩
    · cases himpossible

/-- A navigation is made and followed by the confirmation, or it fails. -/
theorem Step.take_navigate {path : String}
    (hended : (Step.navigate path).take page.transcribed config before = some (outcome, after)) :
    (∃ failure, outcome = .error failure ∧ after.confirmed = before.confirmed ∧
      after.transcript =
        before.transcript ++ [⟨.navigate (config.url path), some (.error failure)⟩]) ∨
    ∃ visited : Stage (Transcribed σ), visited.confirmed = before.confirmed ∧
      visited.transcript =
        before.transcript ++ [⟨.navigate (config.url path), some (.ok ())⟩] ∧
      Stage.confirmOnce page.transcribed (Seed.ofSettings config.session) visited =
        some (outcome, after) := by
  obtain ⟨failure, _, hfailed, hoverall⟩ | ⟨_, visited, hvisited, hrest⟩ :=
    Run.bind_eq_some hended
  · cases hoverall
    obtain ⟨moment, hnavigated, rfl⟩ := Stage.onPage_eq_some hfailed
    exact .inl ⟨failure, rfl, rfl, Run.ask_transcribed hnavigated⟩
  · obtain ⟨moment, hnavigated, hstage⟩ := Stage.onPage_eq_some hvisited
    refine .inr ⟨visited, ?_, ?_, hrest⟩
    · rw [hstage]
    · rw [hstage]
      exact Run.ask_transcribed hnavigated

/-- Once the session is confirmed a step makes ordinary calls only. -/
theorem Step.take_inside {step : Step} (hconfirmed : before.confirmed = true)
    (hended : step.take page.transcribed config before = some (outcome, after)) :
    ∃ made, after.transcript = before.transcript ++ made ∧
      (∀ exchange ∈ made, exchange.call.isOrdinary = true) ∧ after.confirmed = true := by
  cases hstep : step.isNavigation with
  | false =>
      obtain ⟨made, htranscript, heveryday, hafter⟩ := Step.take_everyday hstep hended
      refine ⟨made, htranscript, ?_, hafter.trans hconfirmed⟩
      intro exchange hexchange
      exact Call.isOrdinary_of_isEveryday (heveryday exchange hexchange)
  | true =>
      cases step with
      | navigate path =>
          obtain ⟨failure, rfl, hafter, htranscript⟩ | ⟨visited, hvisited, htranscript, hrest⟩ :=
            Step.take_navigate hended
          · exact ⟨_, htranscript, by simp [Call.isOrdinary], hafter.trans hconfirmed⟩
          · obtain ⟨rfl, rfl⟩ := Stage.confirmOnce_confirmed (hvisited.trans hconfirmed) hrest
            exact ⟨_, htranscript, by simp [Call.isOrdinary], hvisited.trans hconfirmed⟩
      | _ => cases hstep

theorem Scenario.steps_inside {steps : List Step} (hconfirmed : before.confirmed = true)
    (hended : (steps.forM fun step => step.take page.transcribed config) before =
      some (outcome, after)) :
    ∃ made, after.transcript = before.transcript ++ made ∧
      ∀ exchange ∈ made, exchange.call.isOrdinary = true := by
  induction steps generalizing before with
  | nil =>
      cases hended
      exact ⟨[], by simp, by simp⟩
  | cons step steps ih =>
      rw [Run.forM_cons] at hended
      obtain ⟨_, _, hfailed, hoverall⟩ | ⟨_, middle, htaken, hrest⟩ := Run.bind_eq_some hended
      · cases hoverall
        obtain ⟨made, htranscript, hordinary, _⟩ := Step.take_inside hconfirmed hfailed
        exact ⟨made, htranscript, hordinary⟩
      · obtain ⟨first, hfirst, hordinary, hmiddle⟩ := Step.take_inside hconfirmed htaken
        obtain ⟨later, hlater, hothers⟩ := ih hmiddle hrest
        refine ⟨first ++ later, ?_, List.forall_mem_append.mpr ⟨hordinary, hothers⟩⟩
        rw [hlater, hfirst, List.append_assoc]

end Steps

section Entering

variable {page : Page σ} {config : Configuration} {before after : Stage (Transcribed σ)}
  {outcome : Except Failure Unit} {entries : Storage}
  (hentries : (Seed.ofSettings config.session).entries = .ok entries)
  (hconfirmed : before.confirmed = false)
include hentries hconfirmed

/-- Before the session is confirmed a step stays outside, or it is the navigation that is
made first: the session is then confirmed, or the step fails. -/
theorem Step.take_outside {step : Step}
    (hended : step.take page.transcribed config before = some (outcome, after)) :
    (∃ made, after.transcript = before.transcript ++ made ∧
      (∀ exchange ∈ made, exchange.Outside) ∧ after.confirmed = false) ∨
    ∃ url made, after.transcript =
        before.transcript ++ ⟨.navigate url, some (.ok ())⟩ :: made ∧
      (outcome = .ok () ∧ after.confirmed = true ∧
          made = readBack (Seed.ofSettings config.session).values ∨
        ∃ failure, outcome = .error failure ∧
          Denied (Seed.ofSettings config.session).values made) := by
  cases hstep : step.isNavigation with
  | false =>
      obtain ⟨made, htranscript, heveryday, hafter⟩ := Step.take_everyday hstep hended
      refine .inl ⟨made, htranscript, ?_, hafter.trans hconfirmed⟩
      exact fun exchange hexchange => .inl (heveryday exchange hexchange)
  | true =>
      cases step with
      | navigate path =>
          obtain ⟨failure, rfl, hafter, htranscript⟩ | ⟨visited, hvisited, htranscript, hrest⟩ :=
            Step.take_navigate hended
          · refine .inl ⟨_, htranscript, ?_, hafter.trans hconfirmed⟩
            simp [Exchange.Outside]
          · obtain ⟨made, hmade, hverdict⟩ :=
              Stage.confirmOnce_transcribed hentries (hvisited.trans hconfirmed) hrest
            refine .inr ⟨config.url path, made, ?_, hverdict⟩
            rw [hmade, htranscript, List.append_assoc]
            rfl
      | _ => cases hstep

/-- The steps of a scenario keep to the entrance. -/
theorem Scenario.steps_outside {steps : List Step}
    (hended : (steps.forM fun step => step.take page.transcribed config) before =
      some (outcome, after)) :
    ∃ made, after.transcript = before.transcript ++ made ∧
      Entrance (Seed.ofSettings config.session).values made !outcome.isOk := by
  -- The first navigation that is made ends the induction: the steps after it are inside.
  induction steps generalizing before with
  | nil =>
      cases hended
      exact ⟨[], by simp, .nil⟩
  | cons step steps ih =>
      rw [Run.forM_cons] at hended
      obtain ⟨failure, _, hfailed, hoverall⟩ | ⟨_, middle, htaken, hrest⟩ :=
        Run.bind_eq_some hended
      · cases hoverall
        obtain ⟨made, htranscript, houtside, _⟩ |
          ⟨url, made, htranscript, ⟨himpossible, _⟩ | ⟨_, _, hdenied⟩⟩ :=
          Step.take_outside hentries hconfirmed hfailed
        · exact ⟨made, htranscript, .outside houtside⟩
        · cases himpossible
        · exact ⟨_, htranscript, .enter url (.denied hdenied)⟩
      · obtain ⟨first, hfirst, houtside, hmiddle⟩ |
          ⟨url, _, hfirst, ⟨_, hmiddle, rfl⟩ | ⟨_, himpossible, _⟩⟩ :=
          Step.take_outside hentries hconfirmed htaken
        · obtain ⟨later, hlater, hentrance⟩ := ih hmiddle hrest
          refine ⟨first ++ later, ?_, hentrance.prepend houtside⟩
          rw [hlater, hfirst, List.append_assoc]
        · obtain ⟨later, hlater, hordinary⟩ := Scenario.steps_inside hmiddle hrest
          refine ⟨_, ?_, .enter url (.granted hordinary)⟩
          rw [hlater, hfirst, List.append_assoc, List.cons_append]
        · cases himpossible

end Entering

/-- A scenario keeps to the gate of its session. -/
theorem Scenario.perform_gated {page : Page σ} {config : Configuration} {scenario : Scenario}
    {before after : Stage (Transcribed σ)} {outcome : Except Failure Unit}
    (hconfirmed : before.confirmed = false)
    (hended : scenario.perform page.transcribed config before = some (outcome, after)) :
    ∃ made, after.transcript = before.transcript ++ made ∧
      Session.Gate (Seed.ofSettings config.session) made !outcome.isOk := by
  obtain ⟨failure, _, hfailed, hoverall⟩ | ⟨_, middle, hinstalled, hrest⟩ :=
    Run.bind_eq_some hended
  · cases hoverall
    obtain ⟨moment, hinstall, rfl⟩ := Stage.onPage_eq_some hfailed
    obtain ⟨reason, hentries, _, htranscript⟩ | ⟨entries, hentries, htranscript⟩ :=
      Seed.install_transcribed hinstall
    · exact ⟨[], htranscript.trans (List.append_nil _).symm, .invalid hentries⟩
    · exact ⟨_, htranscript, .refused hentries⟩
  · obtain ⟨moment, hinstall, hstage⟩ := Stage.onPage_eq_some hinstalled
    obtain ⟨_, _, himpossible, _⟩ | ⟨entries, hentries, htranscript⟩ :=
      Seed.install_transcribed hinstall
    · cases himpossible
    have hmiddle : middle.confirmed = false := by rw [hstage, hconfirmed]
    obtain ⟨rest, hlater, hentrance⟩ := Scenario.steps_outside hentries hmiddle hrest
    refine ⟨_, ?_, .installed hentries (Seed.entries_eq_ok hentries) hentrance⟩
    calc
      after.transcript = middle.transcript ++ rest := hlater
      _ = before.transcript ++ [⟨.install entries, some (.ok ())⟩] ++ rest := by
        rw [hstage]
        exact congrArg (· ++ rest) htranscript
      _ = _ := by rw [List.append_assoc, List.singleton_append]

end DesktopTrial
