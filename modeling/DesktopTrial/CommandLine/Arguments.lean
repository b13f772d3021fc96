import DesktopTrial.CommandLine.Flag

/-!
# Arguments

The arguments of the tool up to its command, and those of the command, are read by
the same rules.  A value is looked at when the next flag begins or the arguments
end, so of two faults the one that is noticed first is reported.
-/

namespace DesktopTrial.CommandLine

/-- Where a setting comes from.  The command line outranks the environment. -/
inductive Origin where
  | environment
  | arguments
deriving DecidableEq, Repr

/-- A flag that is set: its value, or how often it is given. -/
structure Mark where
  origin : Origin
  value : String
  times : Nat
deriving DecidableEq, Repr

structure Reading where
  marks : List (Flag × Mark) := []
  /-- The arguments that are no flags. -/
  names : List String := []
  /-- A flag whose value is not looked at yet, and the value when it is there. -/
  pending : Option (Flag × Option String) := none
  /-- The next argument is the value of the pending flag. -/
  awaiting : Bool := false
  /-- Two dashes were read, so that no more flags follow. -/
  onlyNames : Bool := false

/-- The part of the arguments that is read: the flags it knows, and whether names
may stand in it. -/
structure Level where
  flags : List Flag
  takesNames : Bool

namespace Reading

def mark? (r : Reading) (flag : Flag) : Option Mark := r.marks.lookup flag

def put (flag : Flag) (mark : Mark) (r : Reading) : Reading :=
  { r with marks := (flag, mark) :: r.marks.filter fun entry => entry.1 != flag }

/-- Looks at the value of the pending flag. -/
def settle (r : Reading) : Except Refusal Reading :=
  match r.pending with
  | none => .ok r
  | some (_, none) => .error .badValue
  | some (flag, some value) =>
      let r := { r with pending := none }
      if (r.mark? flag).isSome then .error .repeated
      else match flag.accept value with
        | .error refusal => .error refusal
        | .ok () => .ok (r.put flag ⟨.arguments, value, 1⟩)

/-- Gives a flag a value that stands in the same argument, or lets it wait for the
next one. -/
def assign (flag : Flag) (attached : Option String) (r : Reading) : Except Refusal Reading :=
  match r.settle with
  | .error refusal => .error refusal
  | .ok r =>
      match attached with
      | some value => ({ r with pending := some (flag, some value) } : Reading).settle
      | none => .ok { r with pending := some (flag, none), awaiting := true }

/-- Sets a flag without value. -/
def raise (flag : Flag) (r : Reading) : Except Refusal Reading :=
  match r.settle with
  | .error refusal => .error refusal
  | .ok r =>
      match flag.takes with
      | .end refusal => .error refusal
      | .count =>
          let times := ((r.mark? flag).map (·.times)).getD 0
          .ok (r.put flag ⟨.arguments, "", times + 1⟩)
      | _ =>
          if (r.mark? flag).isSome then .error .repeated
          else .ok (r.put flag ⟨.arguments, "", 1⟩)

/-- Reads the letters behind one dash.  Behind a letter that takes a value, the rest
is that value. -/
def letters (level : Level) : List Char → Reading → Except Refusal Reading
  | [], r => .ok r
  | c :: rest, r =>
      match level.flags.find? fun flag => flag.short? == some c with
      | none => .error .unknownArgument
      | some flag =>
          match flag.takes with
          | .value =>
              let attached := match rest with
                | [] => none
                | '=' :: value => some (String.ofList value)
                | value => some (String.ofList value)
              r.assign flag attached
          | _ =>
              match r.raise flag with
              | .error refusal => .error refusal
              | .ok r => letters level rest r

/-- Cuts a text at its first equals sign. -/
def cutAtEquals (text : List Char) : List Char × Option (List Char) :=
  match text.dropWhile (· != '=') with
  | [] => (text, none)
  | _ :: value => (text.takeWhile (· != '='), some value)

/-- Reads the name behind two dashes. -/
def word (level : Level) (text : List Char) (r : Reading) : Except Refusal Reading :=
  let (name, attached) := cutAtEquals text
  match level.flags.find? fun flag => flag.long == String.ofList name with
  | none => .error .unknownArgument
  | some flag =>
      match flag.takes, attached with
      | .value, attached => r.assign flag (attached.map String.ofList)
      | _, some _ => .error .unwantedValue
      | _, none => r.raise flag

def name (text : String) (r : Reading) : Except Refusal Reading :=
  match r.settle with
  | .error refusal => .error refusal
  | .ok r => .ok { r with names := r.names ++ [text], awaiting := false }

/-- Reads an argument where no flag may stand. -/
def plain (level : Level) (text : String) (r : Reading) : Except Refusal Reading :=
  if r.awaiting && !r.onlyNames then
    .ok { r with
      pending := r.pending.map fun pending => (pending.1, some text), awaiting := false }
  else if level.takesNames then r.name text
  else .error .unknownArgument

def argument (level : Level) (text : String) (r : Reading) : Except Refusal Reading :=
  if r.onlyNames then r.plain level text
  else match text.toList with
    | ['-', '-'] => .ok { r with onlyNames := true }
    | '-' :: '-' :: rest => ({ r with awaiting := false } : Reading).word level rest
    | '-' :: c :: rest => ({ r with awaiting := false } : Reading).letters level (c :: rest)
    | _ => r.plain level text

/-- Lets the environment stand in for flags that are not given. -/
def fromEnvironment (environment : List (String × String)) :
    List Flag → Reading → Except Refusal Reading
  | [], r => .ok r
  | flag :: rest, r =>
      match r.mark? flag, flag.environmentName?.bind fun name => environment.lookup name with
      | none, some value =>
          match flag.accept value with
          | .error refusal => .error refusal
          | .ok () => fromEnvironment environment rest (r.put flag ⟨.environment, value, 1⟩)
      | _, _ => fromEnvironment environment rest r

/-- Ends the reading of a level. -/
def finish (level : Level) (environment : List (String × String)) (r : Reading) :
    Except Refusal Reading :=
  match r.settle with
  | .error refusal => .error refusal
  | .ok r => fromEnvironment environment level.flags r

end Reading

def CommandName.level : CommandName → Level
  | .run => ⟨Flag.common ++ .json :: Flag.overriding, true⟩
  | .list => ⟨Flag.common, false⟩
  | .config => ⟨Flag.common ++ Flag.overriding, false⟩

def topLevel : Level := ⟨Flag.common, false⟩

/-- The refusal of an argument that is no command.  Behind two dashes the name of a
command is out of place. -/
def notACommand (text : String) (r : Reading) : Refusal :=
  if r.onlyNames && ((CommandName.ofWord? text).isSome || text == "help") then .unknownArgument
  else .unknownCommand

def helpRefusal (commands : List String) : Refusal :=
  match commands with
  | [] => .helpAsked
  | [command] =>
      if (CommandName.ofWord? command).isSome || command == "help" then .helpAsked
      else .unknownCommand
  | _ => .unknownCommand

/-- Does the argument begin with a dash, without being one? -/
def looksLikeFlag (text : String) : Bool :=
  match text.toList with
  | '-' :: _ :: _ => true
  | _ => false

def readCommand (level : Level) (environment : List (String × String)) (arguments : List String) :
    Except Refusal Reading := do
  let r ← arguments.foldlM (fun (r : Reading) text => r.argument level text) {}
  r.finish level environment

/-- Ends the reading of a top level without command. -/
def withoutCommand (environment : List (String × String)) (r : Reading) : Refusal :=
  match r.finish topLevel environment with
  | .error refusal => refusal
  | .ok r => if r.marks.isEmpty then .nothingGiven else .missingCommand

/-- Reads the arguments of the tool up to the command, then those of the command. -/
def readAll (environment : List (String × String)) :
    List String → Reading → Except Refusal (Reading × CommandName × Reading)
  | [], r => .error (withoutCommand environment r)
  | text :: rest, r =>
      if r.onlyNames then .error (notACommand text r)
      else if r.awaiting || looksLikeFlag text then
        match r.argument topLevel text with
        | .error refusal => .error refusal
        | .ok r => readAll environment rest r
      else if text = "help" then .error (helpRefusal rest)
      else match CommandName.ofWord? text with
        | none => .error .unknownCommand
        | some command =>
            match readCommand command.level environment rest with
            | .error refusal => .error (refusal.within command)
            | .ok inner =>
                match r.finish topLevel environment with
                | .error refusal => .error refusal
                | .ok outer => .ok (outer, command, inner)

end DesktopTrial.CommandLine
