import DesktopTrial.Configuration.Data
import DesktopTrial.Files
import DesktopTrial.Source.YamlText

/-!
# Reading configurations

A configuration is read from YAML text and then checked.
-/

namespace DesktopTrial.Configuration

/-- Reads and checks a configuration. -/
def ofYaml (text : String) : Except Failure Configuration :=
  match Yaml.decode? Configuration.read? text with
  | none => .error .yaml
  | some config =>
      match config.validate with
      | .ok () => .ok config
      | .error failure => .error failure

def ofFile (files : Files) (path : String) : Except Failure Configuration :=
  match files.readText path with
  | .error e => .error (.file e)
  | .ok text => ofYaml text

end DesktopTrial.Configuration
