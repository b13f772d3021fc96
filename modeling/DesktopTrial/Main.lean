import DesktopTrial.CommandLine.Effect

/-!
# The command line tool

Reads the environment and the configuration file, has the arguments carried out,
and writes what comes of it.
-/

namespace DesktopTrial.CommandLine

/-- The variables that stand in for flags, as far as they are set. -/
def currentEnvironment : IO (List (String × String)) := do
  let names := (Flag.common ++ Flag.overriding).filterMap Flag.environmentName?
  let values ← names.mapM fun name => do return (name, ← IO.getEnv name)
  return values.filterMap fun (name, value) => value.map fun value => (name, value)

/-- The files of the disk, as far as the tool reads them. -/
def currentFiles (path : Option String) : IO Files := do
  let some path := path | return .empty
  match ← (IO.FS.readBinFile path).toBaseIO with
  | .ok contents => return ((Files.save path contents).run .empty).2
  | .error (.inappropriateType ..) => return ((Files.ensureTree (path.length + 1) path).run .empty).2
  | .error _ => return .empty

end DesktopTrial.CommandLine

def main (arguments : List String) : IO UInt32 := do
  let environment ← DesktopTrial.CommandLine.currentEnvironment
  let files ← DesktopTrial.CommandLine.currentFiles
    (DesktopTrial.CommandLine.fileNamed? environment arguments)
  let output := DesktopTrial.CommandLine.call files environment arguments
  IO.print output.out
  IO.eprint output.err
  return UInt32.ofNat output.code
