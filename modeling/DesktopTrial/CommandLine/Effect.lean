import DesktopTrial.Catalog
import DesktopTrial.CommandLine.Invocation
import DesktopTrial.Configuration.Reading
import DesktopTrial.Console
import DesktopTrial.Yaml.Printer

/-!
# What an invocation does

An invocation reads files and ends with a text for each output and an exit code.
Values on the command line override those of the configuration file.
-/

namespace DesktopTrial.CommandLine

inductive ToolFailure where
  | failure (failure : Failure)
  | badArgument (message : String)
  | logging (message : String)
deriving DecidableEq, Repr

def ToolFailure.message : ToolFailure → String
  | .failure f => f.message
  | .badArgument message => "Invalid argument: " ++ message
  | .logging message => "Logging setup failed: " ++ message

/-- Puts the overriding values into a configuration. -/
def Overrides.apply (o : Overrides) (config : Configuration) : Configuration :=
  { config with
    baseUrl := o.baseUrl.getD config.baseUrl
    artifactDir := o.artifactDir.getD config.artifactDir
    timeouts :=
      { config.timeouts with
        ready := o.timeout.getD config.timeouts.ready
        settle := o.settle.getD config.timeouts.settle }
    tolerance := o.tolerance.getD config.tolerance
    browser :=
      { config.browser with
        headless := config.browser.headless && !o.headed
        sandbox := config.browser.sandbox && !o.noSandbox
        executable := o.chromium.or config.browser.executable } }

/-- The configuration of a file, or the standard one without a file. -/
def loadConfiguration (files : Files) (path : Option String) : Except Failure Configuration :=
  match path with
  | some path => Configuration.ofFile files path
  | none => .ok {}

/-- The configuration that is in force: the file's, with the overriding values. -/
def effectiveConfiguration (files : Files) (path : Option String) (overrides : Overrides) :
    Except Failure Configuration :=
  match loadConfiguration files path with
  | .error failure => .error failure
  | .ok loaded =>
      let config := overrides.apply loaded
      match config.validate with
      | .ok () => .ok config
      | .error failure => .error failure

/-- The built-in scenarios with these names. -/
def selectScenarios (config : Configuration) (names : List String) :
    Except ToolFailure (List Scenario) :=
  match Catalog.select config names with
  | .ok scenarios => .ok scenarios
  | .error message => .error (.badArgument message)

/-- What the tool wrote, and its exit code. -/
structure Output where
  code : Nat
  out : String
  err : String
deriving DecidableEq, Repr

namespace Output

def success (out : String) : Output := ⟨0, out, ""⟩

def failure (f : ToolFailure) : Output := ⟨1, "", "Error: " ++ f.message ++ "\n"⟩

end Output

def padded (width : Nat) (text : String) : String :=
  String.ofList (text.toList ++ List.replicate (width - text.length) ' ')

def listing : List String :=
  (Catalog.all {}).map fun scenario => padded 18 scenario.name ++ " " ++ scenario.description

/-- The failure of every run, as long as no browser can be driven. -/
def noBrowser : Failure :=
  .configuration "browser support not enabled. Rebuild with --features browser"

def Invocation.perform (files : Files) (i : Invocation) : Output :=
  match i.command with
  | .list => .success (Console.print listing)
  | .config overrides =>
      match effectiveConfiguration files i.config overrides with
      | .error f => .failure (.failure f)
      | .ok config => .success (Yaml.print config.document)
  | .run names _ overrides =>
      match effectiveConfiguration files i.config overrides with
      | .error f => .failure (.failure f)
      | .ok config =>
          match selectScenarios config names with
          | .error f => .failure f
          | .ok _ => .failure (.failure noBrowser)

def toolName : Option CommandName → String
  | none => "deskprobe"
  | some command => "deskprobe-" ++ command.word

def version : String := "0.1.0"

def usage : List String :=
  ("Usage: deskprobe [FLAGS] <" ++ "|".intercalate (CommandName.all.map (·.word)) ++
      "> [FLAGS] [NAMES]") ::
    (Flag.common ++ .json :: Flag.overriding).map fun flag => "  --" ++ flag.long

def Refusal.output : Refusal → Output
  | .helpAsked => .success (Console.print usage)
  | .versionAsked command => .success (toolName command ++ " " ++ version ++ "\n")
  | refusal => ⟨refusal.exitCode, "", "error: " ++ refusal.message ++ "\n\n" ++ Console.print usage⟩

/-- The configuration file that the arguments name, if they are carried out. -/
def fileNamed? (environment : List (String × String)) (arguments : List String) :
    Option String :=
  match Invocation.read environment arguments with
  | .ok i => i.config
  | .error _ => none

def call (files : Files) (environment : List (String × String)) (arguments : List String) :
    Output :=
  match Invocation.read environment arguments with
  | .ok i => i.perform files
  | .error refusal => refusal.output

end DesktopTrial.CommandLine
