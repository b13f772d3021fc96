import DesktopTrial.CommandLine.Settings
import DesktopTrial.Decimal.Reading

/-!
# Flags of the command line

The flags that the tool and its commands know, how they are spelled, and which
values they take.
-/

namespace DesktopTrial.CommandLine

inductive CommandName where
  | run
  | list
  | config
deriving DecidableEq, Repr

namespace CommandName

def word : CommandName → String
  | .run => "run"
  | .list => "list"
  | .config => "config"

def all : List CommandName := [.run, .list, .config]

def ofWord? (word : String) : Option CommandName := all.find? fun name => name.word == word

end CommandName

inductive Refusal where
  /-- Nothing was given at all. -/
  | nothingGiven
  | missingCommand
  | unknownCommand
  | unknownArgument
  /-- A flag has no value, or one that it does not know. -/
  | badValue
  /-- A value is no number, or one out of range. -/
  | badNumber
  /-- A flag that takes no value has one. -/
  | unwantedValue
  /-- A flag is given twice. -/
  | repeated
  | helpAsked
  /-- The version of the tool, or of one of its commands, was asked for. -/
  | versionAsked (command : Option CommandName)
deriving DecidableEq, Repr

namespace Refusal

/-- The same refusal, inside the arguments of a command. -/
def within (command : CommandName) : Refusal → Refusal
  | .versionAsked _ => .versionAsked (some command)
  | refusal => refusal

/-- Help and version are shown because they were asked for; all else is misuse. -/
def exitCode : Refusal → Nat
  | .helpAsked => 0
  | .versionAsked _ => 0
  | _ => 2

def message : Refusal → String
  | .nothingGiven => "nothing is asked for"
  | .missingCommand => "a command is missing"
  | .unknownCommand => "there is no such command"
  | .unknownArgument => "an argument is unexpected"
  | .badValue => "a flag has no value, or one that it does not take"
  | .badNumber => "a value is no number in range"
  | .unwantedValue => "a flag takes no value"
  | .repeated => "a flag is given twice"
  | .helpAsked => "help was asked for"
  | .versionAsked _ => "the version was asked for"

end Refusal

inductive Flag where
  | verbose
  | quiet
  | color
  | logFormat
  | config
  | help
  | version
  | json
  | baseUrl
  | artifactDir
  | timeout
  | settle
  | tolerance
  | headed
  | noSandbox
  | chromium
deriving DecidableEq, Repr

inductive Takes where
  /-- Nothing; it may be given once. -/
  | nothing
  /-- Nothing; it counts how often it is given. -/
  | count
  /-- A value. -/
  | value
  /-- Nothing; it ends the reading. -/
  | end (refusal : Refusal)

namespace Flag

def takes : Flag → Takes
  | .verbose => .count
  | .quiet => .nothing
  | .headed => .nothing
  | .noSandbox => .nothing
  | .help => .end .helpAsked
  | .version => .end (.versionAsked none)
  | _ => .value

/-- The name behind two dashes. -/
def long : Flag → String
  | .verbose => "verbose"
  | .quiet => "quiet"
  | .color => "color"
  | .logFormat => "log-format"
  | .config => "config"
  | .help => "help"
  | .version => "version"
  | .json => "json"
  | .baseUrl => "base-url"
  | .artifactDir => "artifact-dir"
  | .timeout => "timeout"
  | .settle => "settle"
  | .tolerance => "tolerance"
  | .headed => "headed"
  | .noSandbox => "no-sandbox"
  | .chromium => "chromium"

/-- The letter behind one dash. -/
def short? : Flag → Option Char
  | .verbose => some 'v'
  | .quiet => some 'q'
  | .config => some 'c'
  | .help => some 'h'
  | .version => some 'V'
  | _ => none

def environmentName? : Flag → Option String
  | .config => some "DESKPROBE_CONFIG"
  | .baseUrl => some "DESKPROBE_BASE_URL"
  | .chromium => some "DESKPROBE_CHROMIUM"
  | _ => none

/-- The flags that every command knows, and the tool itself. -/
def common : List Flag := [.verbose, .quiet, .color, .logFormat, .config, .help, .version]

def overriding : List Flag :=
  [.baseUrl, .artifactDir, .timeout, .settle, .tolerance, .headed, .noSandbox, .chromium]

end Flag

/-- A natural number with a plus sign or none. -/
def natural? (text : String) : Option Nat :=
  let body := match text.toList with
    | '+' :: rest => rest
    | chars => chars
  if body.isEmpty || !body.all Char.isDigit then none else some (Decimal.digitsValue 0 body)

/-- The same, where zero may have a minus sign too. -/
def naturalOrZero? (text : String) : Option Nat :=
  match text.toList with
  | '-' :: rest =>
      match natural? (String.ofList rest) with
      | some 0 => if rest.head? == some '+' then none else some 0
      | _ => none
  | _ => natural? text

/-- Refuses a value that the flag does not take. -/
def Flag.accept (flag : Flag) (value : String) : Except Refusal Unit :=
  let refuseUnless (ok : Bool) (refusal : Refusal) : Except Refusal Unit :=
    if ok then .ok () else .error refusal
  match flag with
  | .config => refuseUnless (value ≠ "") .badValue
  | .json => refuseUnless (value ≠ "") .badValue
  | .artifactDir => refuseUnless (value ≠ "") .badValue
  | .color => refuseUnless (ColorChoice.ofWord? value).isSome .badValue
  | .logFormat => refuseUnless (LogFormat.ofWord? value).isSome .badValue
  | .timeout => refuseUnless ((natural? value).any (· < UInt64.size)) .badNumber
  | .settle => refuseUnless ((natural? value).any (· < UInt64.size)) .badNumber
  | .tolerance => refuseUnless ((naturalOrZero? value).any (· < UInt32.size)) .badNumber
  | _ => .ok ()

end DesktopTrial.CommandLine
