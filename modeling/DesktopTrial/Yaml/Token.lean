import DesktopTrial.Yaml.Node

/-!
# YAML tokens

The marks of a YAML text in the order in which they structure it.  Where the text
shows structure by indentation, the tokens have explicit starts and ends.
-/

namespace DesktopTrial.Yaml

inductive Token where
  | version (major minor : Nat)
  | tagHandle (handle expansion : String)
  | documentStart
  | documentEnd
  | blockSequenceStart
  | blockMappingStart
  | blockEnd
  | flowSequenceStart
  | flowSequenceEnd
  | flowMappingStart
  | flowMappingEnd
  | flowEntry
  | blockEntry
  | key
  | value
  | anchor (name : String)
  | alias (name : String)
  | tag (handle suffix : String)
  | scalar (style : Style) (text : String)
deriving DecidableEq, Repr

end DesktopTrial.Yaml
