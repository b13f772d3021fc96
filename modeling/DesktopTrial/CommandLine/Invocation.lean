import DesktopTrial.CommandLine.Arguments

/-!
# Invocations

What the tool is asked to do, with every value in its own type.
-/

namespace DesktopTrial.CommandLine

structure Overrides where
  baseUrl : Option String := none
  artifactDir : Option String := none
  timeout : Option UInt64 := none
  settle : Option UInt64 := none
  tolerance : Option UInt32 := none
  headed : Bool := false
  noSandbox : Bool := false
  chromium : Option String := none
deriving DecidableEq, Repr

inductive Command where
  | run (scenarios : List String) (json : Option String) (overrides : Overrides)
  | list
  | config (overrides : Overrides)
deriving DecidableEq, Repr

structure Invocation where
  /-- How often the verbose flag is given. -/
  verbose : UInt8
  quiet : Bool
  color : ColorChoice
  logFormat : LogFormat
  /-- The configuration file. -/
  config : Option String
  command : Command
deriving DecidableEq, Repr

namespace Reading

def value? (r : Reading) (flag : Flag) : Option String := (r.mark? flag).map (·.value)

def isSet (r : Reading) (flag : Flag) : Bool := (r.mark? flag).isSome

def overrides (r : Reading) : Overrides where
  baseUrl := r.value? .baseUrl
  artifactDir := r.value? .artifactDir
  timeout := ((r.value? .timeout).bind natural?).map UInt64.ofNat
  settle := ((r.value? .settle).bind natural?).map UInt64.ofNat
  tolerance := ((r.value? .tolerance).bind naturalOrZero?).map UInt32.ofNat
  headed := r.isSet .headed
  noSandbox := r.isSet .noSandbox
  chromium := r.value? .chromium

end Reading

/-- The setting that holds of a flag that may stand before and behind the command.
The one behind it wins, unless it comes from the environment and the other does
not. -/
def innermost (outer inner : Option Mark) : Option Mark :=
  match outer, inner with
  | some outer, some inner =>
      if outer.origin = .arguments ∧ inner.origin = .environment then some outer else some inner
  | some outer, none => some outer
  | none, inner => inner

namespace Invocation

def ofReadings (outer : Reading) (name : CommandName) (inner : Reading) : Invocation :=
  let common (flag : Flag) : Option Mark := innermost (outer.mark? flag) (inner.mark? flag)
  { verbose := UInt8.ofNat (min 255 (((common .verbose).map (·.times)).getD 0))
    quiet := (common .quiet).isSome
    color := ((common .color).bind fun mark => ColorChoice.ofWord? mark.value).getD .auto
    logFormat := ((common .logFormat).bind fun mark => LogFormat.ofWord? mark.value).getD .text
    config := (common .config).map (·.value)
    command := match name with
      | .run => .run inner.names (inner.value? .json) inner.overrides
      | .list => .list
      | .config => .config inner.overrides }

/-- Reads the arguments of the tool, with the environment that stands in for some of
them. -/
def read (environment : List (String × String)) (arguments : List String) :
    Except Refusal Invocation := do
  let (outer, name, inner) ← readAll environment arguments {}
  return ofReadings outer name inner

def verbosity (i : Invocation) : Verbosity := .ofFlags i.quiet i.verbose.toNat

def settings (i : Invocation) : OutputSettings := ⟨i.verbosity, i.color, i.logFormat⟩

end Invocation

end DesktopTrial.CommandLine
