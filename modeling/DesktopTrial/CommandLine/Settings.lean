import DesktopTrial.Document
import DesktopTrial.Source.Basic

/-!
# Output settings

How much the command line tool says, in which colors, and in which form it logs.
-/

namespace DesktopTrial

variable {ν : Type} [Source ν]

inductive Verbosity where
  /-- Failures only. -/
  | quiet
  | normal
  | verbose
  | debug
deriving DecidableEq, Repr

namespace Verbosity

def ofFlags (quiet : Bool) (verbose : Nat) : Verbosity :=
  if quiet then .quiet
  else match verbose with
    | 0 => .normal
    | 1 => .verbose
    | _ => .debug

def isQuiet (v : Verbosity) : Bool := v == .quiet

/-- Verbose, or more than that. -/
def isVerbose (v : Verbosity) : Bool := v == .verbose || v == .debug

def isDebug (v : Verbosity) : Bool := v == .debug

def logFilter : Verbosity → String
  | .quiet => "error"
  | .normal => "warn"
  | .verbose => "deskprobe=info,warn"
  | .debug => "deskprobe=debug,info"

def document : Verbosity → Document
  | .quiet => .text "Quiet"
  | .normal => .text "Normal"
  | .verbose => .text "Verbose"
  | .debug => .text "Debug"

def read? (tree : ν) : Option Verbosity :=
  match Source.choice? ["Quiet", "Normal", "Verbose", "Debug"] tree with
  | some 0 => some .quiet
  | some 1 => some .normal
  | some 2 => some .verbose
  | some 3 => some .debug
  | _ => none

end Verbosity

inductive ColorChoice where
  | always
  /-- When the output is a terminal. -/
  | auto
  | never
deriving DecidableEq, Repr

namespace ColorChoice

/-- Whether colors are used; undecided as long as nothing is known of the output. -/
def decided? : ColorChoice → Option Bool
  | .always => some true
  | .auto => none
  | .never => some false

def document : ColorChoice → Document
  | .always => .text "Always"
  | .auto => .text "Auto"
  | .never => .text "Never"

def read? (tree : ν) : Option ColorChoice :=
  match Source.choice? ["Always", "Auto", "Never"] tree with
  | some 0 => some .always
  | some 1 => some .auto
  | some 2 => some .never
  | _ => none

def ofWord? (word : String) : Option ColorChoice :=
  if word = "always" then some .always
  else if word = "auto" then some .auto
  else if word = "never" then some .never
  else none

end ColorChoice

inductive LogFormat where
  | text
  | json
deriving DecidableEq, Repr

namespace LogFormat

def document : LogFormat → Document
  | .text => .text "Text"
  | .json => .text "Json"

def read? (tree : ν) : Option LogFormat :=
  match Source.choice? ["Text", "Json"] tree with
  | some 0 => some .text
  | some 1 => some .json
  | _ => none

def ofWord? (word : String) : Option LogFormat :=
  if word = "text" then some .text else if word = "json" then some .json else none

end LogFormat

structure OutputSettings where
  verbosity : Verbosity := .normal
  color : ColorChoice := .auto
  logFormat : LogFormat := .text
deriving DecidableEq, Repr

namespace OutputSettings

def document (s : OutputSettings) : Document :=
  .mapping [("verbosity", s.verbosity.document), ("color", s.color.document),
    ("log_format", s.logFormat.document)]

def read? (tree : ν) : Option OutputSettings :=
  match Source.record? 3 tree with
  | none => none
  | some fields =>
      match fields.required? 0 "verbosity" Verbosity.read?,
          fields.required? 1 "color" ColorChoice.read?,
          fields.required? 2 "log_format" LogFormat.read? with
      | some verbosity, some color, some logFormat => some ⟨verbosity, color, logFormat⟩
      | _, _, _ => none

end OutputSettings

end DesktopTrial
