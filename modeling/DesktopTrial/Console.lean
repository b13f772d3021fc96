import DesktopTrial.Report

/-!
# Console output

The lines that tell a reader at the console how a run goes.  A quiet console shows
only what went wrong.
-/

namespace DesktopTrial

inductive Emphasis where
  | bold
  | underlined
  | reverse
  | green
  | red
deriving DecidableEq, Repr

def Emphasis.sequence : Emphasis → String
  | .bold => "\x1b[1m"
  | .underlined => "\x1b[4m"
  | .reverse => "\x1b[7m"
  | .green => "\x1b[32m"
  | .red => "\x1b[31m"

structure Console where
  /-- Titles and markers are set off by style rather than by characters. -/
  styled : Bool
  /-- The terminal shows styles, so that their control sequences are written. -/
  colored : Bool
  quiet : Bool
deriving DecidableEq, Repr

namespace Console

/-- A text in a style, where the console has styles. -/
def emphasize (console : Console) (emphases : List Emphasis) (text : String) : String :=
  if console.styled && console.colored then
    emphases.foldr (fun emphasis rest => emphasis.sequence ++ rest) (text ++ "\x1b[0m")
  else text

def success (console : Console) (word : String) : String :=
  console.emphasize [.green, .bold] word

def problem (console : Console) (word : String) : String :=
  console.emphasize [.red, .bold] word

def checkLine (console : Console) (scenario : String) (check : CheckRecord) : String :=
  if check.passed then console.success "SUCCESS" ++ ": " ++ scenario ++ " / " ++ check.name
  else console.problem "FAILURE" ++ ": " ++ scenario ++ " / " ++ check.name ++ ": " ++ check.detail

def failureLine (console : Console) (scenario : String) (failure : Failure)
    (screenshot : Option String) : String :=
  console.emphasize [.red, .bold, .reverse] "ERROR" ++ ": " ++ scenario ++ ": " ++
    failure.message ++ match screenshot with
      | some path => " (screenshot: " ++ path ++ ")"
      | none => " (no screenshot)"

def summaryLine (console : Console) (report : Report) : String :=
  (if report.passed then console.success "PASSED" else console.problem "FAILED") ++ " " ++
    showNat report.results.length ++ " scenarios, " ++ showNat report.checkCount ++ " checks (" ++
    showNat (report.checkCount - report.failureCount) ++ " passed, " ++
    showNat report.failureCount ++ " failed, " ++ showNat report.abortedCount ++ " aborted)"

def titleLine (console : Console) (scenario : String) : String :=
  if console.styled then console.emphasize [.bold, .underlined] scenario
  else "=== " ++ scenario ++ " ==="

/-- Lines that a quiet console leaves out. -/
def unlessQuiet (console : Console) (lines : List String) : List String :=
  if console.quiet then [] else lines

def eventLines (console : Console) : Event → List String
  | .started scenario => console.unlessQuiet [console.titleLine scenario]
  | .check scenario check =>
      if check.passed then console.unlessQuiet [console.checkLine scenario check]
      else [console.checkLine scenario check]
  | .checkpoint _ shot => console.unlessQuiet ["  screenshot " ++ shot.name ++ " -> " ++ shot.path]
  | .aborted scenario failure screenshot => [console.failureLine scenario failure screenshot]
  | .finished _ => console.unlessQuiet [""]

def infoLines (console : Console) (message : String) : List String :=
  console.unlessQuiet [message]

/-- The lines that close a run.  A quiet console says nothing when all is well. -/
def summaryLines (console : Console) (report : Report) : List String :=
  if console.quiet && report.passed then [] else ["", console.summaryLine report]

def print (lines : List String) : String := String.join (lines.map (· ++ "\n"))

end Console

end DesktopTrial
