/-!
# PredicateOracle.File.Disk -- a tree of files in memory

Directories and text files under absolute paths. A path is walked from the working directory one
component at a time; every component but the last must be a directory. Three requests are served:
reading a file, making a directory with all that are missing above it, and writing a file. A request
that cannot be served is refused for one of four reasons (`FileError`). A disk stands in for a real
one wherever a session is to be replayed.
-/

namespace PredicateOracle

/-- Why a file cannot be read or written. -/
inductive FileError where
  | notFound
  | exists
  | notDirectory
  | isDirectory
  /-- The content of the file is no text. -/
  | notText
  /-- Anything else, in words. -/
  | other (description : String)
  deriving DecidableEq, Repr

/-- The wording of the error, with its number. -/
def FileError.message : FileError → String
  | .notFound => "No such file or directory (os error 2)"
  | .exists => "File exists (os error 17)"
  | .notDirectory => "Not a directory (os error 20)"
  | .isDirectory => "Is a directory (os error 21)"
  | .notText => "stream did not contain valid UTF-8"
  | .other description => description

/-- The components of an absolute path, from the last one to the first. -/
abbrev Place := List String

/-- Files with their contents, and directories that may be empty. -/
structure Disk where
  files : List (Place × String)
  directories : List Place

namespace Disk

/-- The components of a path. -/
def components (path : String) : List String := (path.toList.splitOn '/').map String.ofList

/-- The place that a sequence of components leads to, if nothing is in the way. -/
def placeFrom (start : Place) (parts : List String) : Place :=
  parts.foldl (fun place part =>
    if part = "" ∨ part = "." then place
    else if part = ".." then place.drop 1
    else part :: place) start

/-- The place of an absolute path. -/
def place (path : String) : Place := placeFrom [] (components path)

/-- The content of the file at a place. -/
def fileAt? (d : Disk) (p : Place) : Option String := (d.files.find? (·.1 = p)).map (·.2)

/-- Whether there is a directory at a place: the root, one that was made, or one with something
below it. -/
def isDirectory (d : Disk) (p : Place) : Bool :=
  p.isEmpty || d.directories.any (p.isSuffixOf ·)
    || d.files.any fun (file, _) => p.isSuffixOf (file.drop 1)

/-- Where the first component of a path starts from. -/
def startOf (cwd : Place) (path : String) : Place := if path.startsWith "/" then [] else cwd

/-- Walks along components; each of them leads out of a directory. -/
def walk (d : Disk) : Place → List String → Except FileError Place
  | here, [] => .ok here
  | here, part :: rest =>
    if d.isDirectory here then
      if part = "" ∨ part = "." then walk d here rest
      else if part = ".." then walk d (here.drop 1) rest
      else walk d (part :: here) rest
    else if (d.fileAt? here).isSome then .error .notDirectory
    else .error .notFound

/-- The place that a path leads to; there may be nothing there yet. -/
def resolve (d : Disk) (cwd : Place) (path : String) : Except FileError Place :=
  if path = "" then .error .notFound else d.walk (startOf cwd path) (components path)

/-! ## Requests -/

/-- Reads a file. -/
def read (d : Disk) (cwd : Place) (path : String) : Except FileError String := do
  let p ← d.resolve cwd path
  if d.isDirectory p then .error .isDirectory
  else
    match d.fileAt? p with
    | some text => .ok text
    | none => .error .notFound

/-- Makes the directories along components that are missing. -/
def makeAlong (d : Disk) : Place → List String → Except FileError Disk
  | _, [] => .ok d
  | here, part :: rest =>
    if part = "" ∨ part = "." then makeAlong d here rest
    else if part = ".." then makeAlong d (here.drop 1) rest
    else
      let next := part :: here
      if (d.fileAt? next).isSome then
        .error (if rest.all (· = "") then .exists else .notDirectory)
      else makeAlong { d with directories := next :: d.directories } next rest

/-- Makes a directory and all that are missing above it. -/
def makeDirectory (d : Disk) (cwd : Place) (path : String) : Except FileError Disk :=
  d.makeAlong (startOf cwd path) (if path = "" then [] else components path)

/-- Writes a file, in place of the one that was there. -/
def write (d : Disk) (cwd : Place) (path text : String) : Except FileError Disk := do
  let p ← d.resolve cwd path
  if d.isDirectory p then .error .isDirectory
  else .ok { d with files := (p, text) :: d.files.filter (·.1 ≠ p) }

end Disk
end PredicateOracle
