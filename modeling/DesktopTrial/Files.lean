import DesktopTrial.Failure
import DesktopTrial.Files.Path

/-!
# Files

A tree of directories and files and the working directory that relative paths
start from.  A path is followed component by component; the first component that
cannot be followed decides the error.
-/

namespace DesktopTrial

inductive FileEntry where
  | directory
  | file (contents : ByteArray)

/-- A tree of files.  The root and the working directory always exist. -/
structure Files where
  entries : List (List String × FileEntry)

namespace Files

def home : List String := ["home"]

/-- The longest component and the length that a whole path stays below, in bytes. -/
def componentLimit : Nat := 255

def pathLimit : Nat := 4096

def empty : Files := ⟨[]⟩

def find? (files : Files) (place : List String) : Option FileEntry :=
  if place.isEmpty || place == home then some .directory else files.entries.lookup place

def insert (place : List String) (entry : FileEntry) (files : Files) : Files :=
  ⟨(place, entry) :: files.entries.filter fun other => other.1 != place⟩

/-- The entry of a directory with a name, unless the name is too long. -/
def childOf (files : Files) (directory : List String) (name : String) :
    Except FileError (Option FileEntry) :=
  if componentLimit < name.utf8ByteSize then .error .nameTooLong
  else .ok (files.find? (directory ++ [name]))

/-- Enters a component of a path, which has to be a directory. -/
def enter (files : Files) (place : List String) (component : String) :
    Except FileError (List String) :=
  if component = "" ∨ component = "." then .ok place
  else if component = ".." then .ok place.dropLast
  else match files.childOf place component with
    | .error e => .error e
    | .ok none => .error .notFound
    | .ok (some (.file _)) => .error .notDirectory
    | .ok (some .directory) => .ok (place ++ [component])

/-- Where a path leads: the directory that its last component is looked up in. -/
structure Target where
  directory : List String
  /-- The last component; none when it is a dot, two dots or the root. -/
  name : Option String
  /-- A slash follows the last component. -/
  slash : Bool

/-- Follows a path up to its last component. -/
def target (files : Files) (path : String) : Except FileError Target :=
  let chars := path.toList
  if chars.contains '\x00' then .error .nulByte
  else if chars.isEmpty then .error .notFound
  else if pathLimit ≤ path.utf8ByteSize then .error .nameTooLong
  else
    let start := if Path.isAbsolute chars then [] else home
    match ((Path.split chars).map String.ofList).filter fun component => component ≠ "" with
    | [] => .ok ⟨start, none, true⟩
    | components =>
        match components.dropLast.foldlM files.enter start, components.getLast? with
        | .error e, _ => .error e
        | .ok directory, last =>
            let name := last.filter fun name => name ≠ "." ∧ name ≠ ".."
            .ok ⟨directory, name, chars.getLast? == some '/'⟩

/-- What a target leads to. -/
def entryAt (files : Files) (target : Target) : Except FileError (Option FileEntry) :=
  match target.name with
  | none => .ok (some .directory)
  | some name => files.childOf target.directory name

def isDirectory (files : Files) (path : String) : Bool :=
  match files.target path with
  | .error _ => false
  | .ok target =>
      match files.entryAt target with
      | .ok (some .directory) => true
      | _ => false

/-- Makes one directory, which must not exist. -/
def makeDirectory (files : Files) (path : String) : Except FileError Files :=
  match files.target path with
  | .error e => .error e
  | .ok target =>
      match target.name, files.entryAt target with
      | _, .error e => .error e
      | some name, .ok none => .ok (files.insert (target.directory ++ [name]) .directory)
      | _, .ok _ => .error .exists

/-- Work on files that may fail.  What was done before the failure stays. -/
abbrev Work (α : Type) := ExceptT FileError (StateM Files) α

/-- Changes the files, or leaves them when the change is refused. -/
def change (f : Files → Except FileError Files) : Work Unit := fun files =>
  match f files with
  | .ok changed => (.ok (), changed)
  | .error e => (.error e, files)

/-- Makes a directory, or finds it. -/
def ensureDirectory (path : String) : Work Unit := change fun files =>
  match files.makeDirectory path with
  | .ok made => .ok made
  | .error e => if files.isDirectory path then .ok files else .error e

/-- Makes a directory and those above it that are missing.  `fuel` bounds the
number of directories; the length of the path is enough. -/
def ensureTree : (fuel : Nat) → (path : String) → Work Unit
  | 0, _ => pure ()
  | fuel + 1, path =>
      if path.isEmpty then pure ()
      else tryCatch (ensureDirectory path) fun e =>
        match e, Path.parent? path with
        | .notFound, some parent => do
            ensureTree fuel parent
            ensureDirectory path
        | e, _ => throw e

/-- Writes a file, in place of the one that was there. -/
def write (files : Files) (path : String) (contents : ByteArray) : Except FileError Files :=
  match files.target path with
  | .error e => .error e
  | .ok target =>
      match target.name with
      | none => .error .isDirectory
      | some name =>
          if target.slash then .error .isDirectory
          else match files.entryAt target with
            | .error e => .error e
            | .ok (some .directory) => .error .isDirectory
            | .ok _ => .ok (files.insert (target.directory ++ [name]) (.file contents))

/-- Writes a file after making the directories above it. -/
def save (path : String) (contents : ByteArray) : Work Unit := do
  ensureTree (path.length + 1) ((Path.parent? path).getD "")
  change fun files => files.write path contents

def read (files : Files) (path : String) : Except FileError ByteArray :=
  match files.target path with
  | .error e => .error e
  | .ok target =>
      match files.entryAt target with
      | .error e => .error e
      | .ok none => .error .notFound
      | .ok (some .directory) => .error .isDirectory
      | .ok (some (.file contents)) => if target.slash then .error .notDirectory else .ok contents

def readText (files : Files) (path : String) : Except FileError String :=
  match files.read path with
  | .error e => .error e
  | .ok contents =>
      match String.fromUTF8? contents with
      | some text => .ok text
      | none => .error .notText

/-- The files below the working directory, as paths from there and sizes, in
ascending order. -/
def list (files : Files) : List (String × Nat) :=
  let below := files.entries.filterMap fun
    | (place, .file contents) =>
        if home.isPrefixOf place then
          some ("/".intercalate (place.drop home.length), contents.size)
        else none
    | _ => none
  below.mergeSort fun a b => decide (a.1 ≤ b.1)

end Files

end DesktopTrial
