import DesktopTrial.Files
import DesktopTrial.Json.Printer
import DesktopTrial.Document
import DesktopTrial.Source.Basic

/-!
# Reports

What a scenario left behind: its checks, its screenshots, and the failure that
aborted it, if one did.  A report holds the results of a run in order.
-/

namespace DesktopTrial

structure CheckRecord where
  name : String
  passed : Bool
  detail : String
deriving DecidableEq, Repr

/-- A screenshot and the file it was written to. -/
structure Checkpoint where
  name : String
  path : String
deriving DecidableEq, Repr

structure ScenarioResult where
  scenario : String
  /-- The checks, in the order in which they were made. -/
  checks : List CheckRecord := []
  screenshots : List Checkpoint := []
  /-- The last screenshot that was written, one of a failure included. -/
  lastScreenshot : Option String := none
  /-- The failure that aborted the scenario. -/
  error : Option String := none
deriving DecidableEq, Repr

structure Report where
  baseUrl : String
  results : List ScenarioResult
deriving DecidableEq, Repr

namespace CheckRecord

def document (c : CheckRecord) : Document :=
  .mapping [("name", .text c.name), ("passed", .bool c.passed), ("detail", .text c.detail)]

def read? {ν : Type} [Source ν] (tree : ν) : Option CheckRecord :=
  match Source.record? 3 tree with
  | none => none
  | some fields =>
      match fields.required? 0 "name" Source.text?, fields.required? 1 "passed" Source.bool?,
          fields.required? 2 "detail" Source.text? with
      | some name, some passed, some detail => some ⟨name, passed, detail⟩
      | _, _, _ => none

end CheckRecord

namespace Checkpoint

def document (c : Checkpoint) : Document :=
  .mapping [("name", .text c.name), ("path", .text c.path)]

def read? {ν : Type} [Source ν] (tree : ν) : Option Checkpoint :=
  match Source.record? 2 tree with
  | none => none
  | some fields =>
      match fields.required? 0 "name" Source.text?, fields.required? 1 "path" Source.text? with
      | some name, some path => some ⟨name, path⟩
      | _, _ => none

end Checkpoint

namespace ScenarioResult

/-- Neither a check nor the scenario itself failed. -/
def passed (r : ScenarioResult) : Bool := r.error.isNone && r.checks.all (·.passed)

def failures (r : ScenarioResult) : List CheckRecord := r.checks.filter (!·.passed)

/-- The first check with a name. -/
def check? (r : ScenarioResult) (name : String) : Option CheckRecord :=
  r.checks.find? (·.name == name)

def document (r : ScenarioResult) : Document :=
  .mapping [("scenario", .text r.scenario),
    ("checks", .sequence (r.checks.map CheckRecord.document)),
    ("screenshots", .sequence (r.screenshots.map Checkpoint.document)),
    ("screenshot_path", .ofOption .text r.lastScreenshot), ("error", .ofOption .text r.error)]

def read? {ν : Type} [Source ν] (tree : ν) : Option ScenarioResult :=
  let optionalText (fields : Fields ν) (place : Nat) (name : String) : Option (Option String) :=
    fields.field? place name (Source.optionOf? Source.text?) (some none) none
  match Source.record? 5 tree with
  | none => none
  | some fields =>
      match fields.required? 0 "scenario" Source.text?,
          fields.required? 1 "checks" (Source.listOf? CheckRecord.read?),
          fields.required? 2 "screenshots" (Source.listOf? Checkpoint.read?),
          optionalText fields 3 "screenshot_path", optionalText fields 4 "error" with
      | some scenario, some checks, some screenshots, some lastScreenshot, some error =>
          some ⟨scenario, checks, screenshots, lastScreenshot, error⟩
      | _, _, _, _, _ => none

end ScenarioResult

namespace Report

def passed (r : Report) : Bool := r.results.all (·.passed)

def checkCount (r : Report) : Nat := (r.results.flatMap (·.checks)).length

def failureCount (r : Report) : Nat := (r.results.flatMap (·.failures)).length

def abortedCount (r : Report) : Nat := r.results.countP fun result => result.error.isSome

def document (r : Report) : Document :=
  .mapping [("base_url", .text r.baseUrl),
    ("results", .sequence (r.results.map ScenarioResult.document))]

def read? {ν : Type} [Source ν] (tree : ν) : Option Report :=
  match Source.record? 2 tree with
  | none => none
  | some fields =>
      match fields.required? 0 "base_url" Source.text?,
          fields.required? 1 "results" (Source.listOf? ScenarioResult.read?) with
      | some baseUrl, some results => some ⟨baseUrl, results⟩
      | _, _ => none

/-- The report as indented JSON. -/
def prettyJson (r : Report) : String := Json.pretty r.document.toJson

/-- Writes the report as JSON, with the directories above the file. -/
def save (r : Report) (path : String) : Files.Work Unit :=
  Files.save path r.prettyJson.toUTF8

end Report

/-- What a run tells while it goes on. -/
inductive Event where
  | started (scenario : String)
  | check (scenario : String) (record : CheckRecord)
  | checkpoint (scenario : String) (checkpoint : Checkpoint)
  /-- A failure aborted the scenario; its screenshot, if one was written. -/
  | aborted (scenario : String) (failure : Failure) (screenshot : Option String)
  | finished (result : ScenarioResult)

end DesktopTrial
