import QuantumWorkbench.Text.Pieces

/-!
# Paths and files

## Contents
- `Path.extension`: what follows the last point of a file's name.
- `FileFault`: why a file cannot be read.
- `FileView`: what a command can see of the file system.
- `Directory`: a tree of files below one directory, and `Directory.view`, what can be seen of it.
-/

namespace QuantumWorkbench

/-! ## Names -/

namespace Path

/-- The names between slashes. -/
def segments (path : String) : List String := (pieces (· = '/') path.toList).map String.ofList

/-- The name of the file that a path leads to, if it does not lead upwards. -/
def fileName? (path : String) : Option String :=
  ((segments path).filter fun s => s ≠ "" ∧ s ≠ ".").getLast?.filter (· ≠ "..")

/-- What follows the last point of the file's name. A point at the start of a name is part of it. -/
def extension (path : String) : String :=
  let name := ((fileName? path).getD "").toList
  let tail := name.reverse.takeWhile (· ≠ '.')
  if name.length ≤ tail.length + 1 then "" else String.ofList tail.reverse

end Path

/-! ## Files -/

/-- Why a file cannot be read. -/
inductive FileFault where
  | missing
  | isDirectory
  /-- The path passes through a file. -/
  | notDirectory
deriving DecidableEq, Repr

def FileFault.message : FileFault → String
  | missing => "No such file or directory (os error 2)"
  | isDirectory => "Is a directory (os error 21)"
  | notDirectory => "Not a directory (os error 20)"

/-- What a command can see of the file system. -/
structure FileView where
  read : String → Except FileFault String
  /-- A file can be written there. -/
  isWritable : String → Bool
  /-- The text of the settings that the user keeps at home, if there are any. -/
  userSettings : Option String := none

/-- Where users keep settings, below their home. -/
def userSettingsPath : String := ".qstep/config.yaml"

/-! ## Directories -/

/-- The files below a directory, by their paths without detours. -/
abbrev Directory := List (String × String)

namespace Directory

/-- The path of a place below the directory. -/
def pathOf (place : List String) : String := "/".intercalate place

def isFile (d : Directory) (place : List String) : Bool := (d.lookup (pathOf place)).isSome

/-- Some file lies below the place, or it is the directory itself. -/
def isDirectory (d : Directory) (place : List String) : Bool :=
  place.isEmpty || d.any fun file => (pathOf place ++ "/").isPrefixOf file.1

/-- What is found on a way that leads out of the directory. Nothing is known to lie there but the
directories above. -/
def outside (names : List String) : FileFault :=
  if names.all fun name => name = "" ∨ name = "." ∨ name = ".." then .isDirectory else .missing

/-- Goes from a place along some names. Every place on the way must be a directory. -/
def walk (d : Directory) (here : List String) : List String → Except FileFault (List String)
  | [] => .ok here
  | name :: rest =>
    if d.isFile here then .error .notDirectory
    else if !d.isDirectory here then .error .missing
    else if name = "" ∨ name = "." then walk d here rest
    else if name = ".." then
      if here.isEmpty then .error (outside rest) else walk d here.dropLast rest
    else walk d (here ++ [name]) rest

/-- The place that a path leads to. -/
def locate (d : Directory) (path : String) : Except FileFault (List String) :=
  let names := Path.segments path
  if path.isEmpty then .error .missing
  else if names.head? = some "" then .error (outside names)
  else d.walk [] names

def read (d : Directory) (path : String) : Except FileFault String := do
  let place ← d.locate path
  match d.lookup (pathOf place) with
  | some text => .ok text
  | none => .error (if d.isDirectory place then .isDirectory else .missing)

def isWritable (d : Directory) (path : String) : Bool :=
  match d.locate path with
  | .ok place => !d.isDirectory place
  | .error _ => false

/-- The directory with a file written. -/
def write (d : Directory) (path text : String) : Directory :=
  match d.locate path with
  | .ok place =>
    let name := pathOf place
    if d.isFile place then d.map fun file => if file.1 = name then (name, text) else file
    else d ++ [(name, text)]
  | .error _ => d

/-- The directory as it is seen by a command that works in it and has it for its user's home. -/
def view (d : Directory) : FileView :=
  { read := d.read, isWritable := d.isWritable,
    userSettings := (d.read userSettingsPath).toOption }

/-- The files in the directory itself that are not as they were before. -/
def changes (before after : Directory) : List (String × String) :=
  after.filter fun file => !file.1.contains '/' && before.lookup file.1 ≠ some file.2

end Directory

end QuantumWorkbench
