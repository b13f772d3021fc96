import DesktopTrial.Proofs.Scenario.Setting

/-!
# What a scenario notes

A scenario tells every check and every checkpoint as an event and records it in its
result.  Both sides are one list of notes: the events are its notes, and the result is
what they add up to.
-/

namespace DesktopTrial

/-- Something that a scenario both tells and records. -/
inductive Note where
  | check (record : CheckRecord)
  | checkpoint (shot : Checkpoint)

namespace Note

def event (scenario : String) : Note → Event
  | .check record => .check scenario record
  | .checkpoint shot => .checkpoint scenario shot

def check? : Note → Option CheckRecord
  | .check record => some record
  | .checkpoint _ => none

def checkpoint? : Note → Option Checkpoint
  | .check _ => none
  | .checkpoint shot => some shot

end Note

namespace ScenarioResult

def add (result : ScenarioResult) : Note → ScenarioResult
  | .check record => { result with checks := result.checks ++ [record] }
  | .checkpoint shot =>
      { result with
        screenshots := result.screenshots ++ [shot], lastScreenshot := some shot.path }

def addAll (result : ScenarioResult) (notes : List Note) : ScenarioResult :=
  notes.foldl add result

variable (result : ScenarioResult) (notes : List Note)

theorem addAll_cons (note : Note) :
    result.addAll (note :: notes) = (result.add note).addAll notes := rfl

theorem addAll_append (notes' : List Note) :
    result.addAll (notes ++ notes') = (result.addAll notes).addAll notes' :=
  List.foldl_append

@[simp]
theorem addAll_scenario : (result.addAll notes).scenario = result.scenario := by
  induction notes generalizing result with
  | nil => rfl
  | cons note notes ih =>
      rw [addAll_cons, ih]
      cases note <;> rfl

@[simp]
theorem addAll_checks :
    (result.addAll notes).checks = result.checks ++ notes.filterMap Note.check? := by
  induction notes generalizing result with
  | nil => simp [addAll]
  | cons note notes ih =>
      rw [addAll_cons, ih]
      cases note <;> simp [add, Note.check?, List.filterMap_cons]

@[simp]
theorem addAll_screenshots :
    (result.addAll notes).screenshots =
      result.screenshots ++ notes.filterMap Note.checkpoint? := by
  induction notes generalizing result with
  | nil => simp [addAll]
  | cons note notes ih =>
      rw [addAll_cons, ih]
      cases note <;> simp [add, Note.checkpoint?, List.filterMap_cons]

/-- The last screenshot is that of the last checkpoint. -/
@[simp]
theorem addAll_lastScreenshot :
    (result.addAll notes).lastScreenshot =
      ((notes.filterMap Note.checkpoint?).map (·.path)).getLast?.or result.lastScreenshot := by
  induction notes generalizing result with
  | nil => simp [addAll]
  | cons note notes ih =>
      rw [addAll_cons, ih]
      cases note with
      | check record => simp [add, Note.checkpoint?, List.filterMap_cons]
      | checkpoint shot =>
          simp only [add, List.filterMap_cons, Note.checkpoint?, List.map_cons,
            List.getLast?_cons]
          cases ((notes.filterMap Note.checkpoint?).map (·.path)).getLast? <;> rfl

end ScenarioResult

variable {σ α : Type}

namespace Stage

def noting (note : Note) (stage : Stage σ) : Stage σ :=
  { stage with
    setting := stage.setting.telling (note.event stage.result.scenario)
    result := stage.result.add note }

/-- From one stage to the other these notes were told, and the same were recorded. -/
structure Noted (notes : List Note) (before after : Stage σ) : Prop where
  events : after.setting.events =
    before.setting.events ++ notes.map (Note.event before.result.scenario)
  result : after.result = before.result.addAll notes

namespace Noted

variable {before middle after : Stage σ} {notes notes' : List Note}

theorem refl (stage : Stage σ) : Noted [] stage stage := ⟨by simp, rfl⟩

theorem single (note : Note) (stage : Stage σ) : Noted [note] stage (stage.noting note) :=
  ⟨rfl, rfl⟩

theorem trans (hfirst : Noted notes before middle) (hrest : Noted notes' middle after) :
    Noted (notes ++ notes') before after := by
  constructor
  · rw [hrest.events, hfirst.events, hfirst.result, ScenarioResult.addAll_scenario]
    simp
  · rw [hrest.result, hfirst.result, ScenarioResult.addAll_append]

end Noted

end Stage

end DesktopTrial
