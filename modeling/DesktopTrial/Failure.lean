import DesktopTrial.Geometry
import DesktopTrial.Text.Search

/-!
# Failures

The hard failures that abort a scenario.  A check that does not hold is an
outcome and not a failure.

No failure stands for writing JSON.  What is written (a report, a user, storage
entries) always has a text, since the names of members and the paths of files
are texts and a number that is not finite is written as `null`.  The words in
which a YAML reader refuses a text are left out: `Failure.yaml` only says that
it did.
-/

namespace DesktopTrial

inductive FileError where
  | notFound
  | exists
  | notDirectory
  | isDirectory
  | nameTooLong
  | nulByte
  | notText
deriving DecidableEq, Repr

def FileError.text : FileError → String
  | .notFound => "No such file or directory (os error 2)"
  | .exists => "File exists (os error 17)"
  | .notDirectory => "Not a directory (os error 20)"
  | .isDirectory => "Is a directory (os error 21)"
  | .nameTooLong => "File name too long (os error 36)"
  | .nulByte => "file name contained an unexpected NUL byte"
  | .notText => "stream did not contain valid UTF-8"

/-- A hard failure. -/
inductive Failure where
  /-- The session could not be brought into the page. -/
  | bootstrap (message : String)
  /-- A condition did not hold within its budget. -/
  | timeout (condition : String) (elapsed : Nat)
  /-- A navigation could not be made. -/
  | navigation (url message : String)
  /-- The page or its browser misbehaved. -/
  | driver (message : String)
  /-- The document was replaced under a script. -/
  | replaced (message : String)
  /-- A setting no scenario can run with. -/
  | configuration (message : String)
  | file (error : FileError)
  /-- A text that is no configuration, whatever the reader holds against it. -/
  | yaml
deriving DecidableEq, Repr

namespace Failure

/-- The label of a failure in reports. -/
def kind : Failure → String
  | .bootstrap _ => "bootstrap"
  | .timeout _ _ => "readiness-timeout"
  | .navigation _ _ => "navigation"
  | .driver _ => "driver"
  | .replaced _ => "document-replaced"
  | .configuration _ => "config"
  | .file _ => "io"
  | .yaml => "yaml"

def message : Failure → String
  | .bootstrap message => "Session bootstrap failed: " ++ message
  | .timeout condition elapsed =>
      "Timed out after " ++ showNat elapsed ++ "ms waiting for " ++ condition
  | .navigation url message => "Navigation to " ++ url ++ " failed: " ++ message
  | .driver message => "Driver error: " ++ message
  | .replaced message => "Document replaced during evaluation: " ++ message
  | .configuration message => "Configuration error: " ++ message
  | .file error => "I/O error: " ++ error.text
  | .yaml => "YAML error"

/-- The failure of a script in the page.  A context that was destroyed or is
unknown means that the document was replaced. -/
def ofEvaluation (message : String) : Failure :=
  if Text.contains message "Execution context was destroyed" ||
      Text.contains message "Cannot find context with specified id" then .replaced message
  else .driver message

/-- Was a budget used up? -/
def isTimeout : Failure → Bool
  | .timeout _ _ => true
  | _ => false

/-- Can the next document do better? -/
def isTransient : Failure → Bool
  | .replaced _ => true
  | _ => false

end Failure

end DesktopTrial
