import PredicateOracle.CommandLine.Style
import PredicateOracle.Fault
import PredicateOracle.File.Disk
import PredicateOracle.File.Path
import PredicateOracle.Text.Blank

/-!
# PredicateOracle.CommandLine.Transcript -- what a program does in the end

A program ends in a sequence of actions and an exit code. Actions are lines of output, complaints and
files to be stored. The first file that cannot be stored ends the sequence with a complaint. Actions
are carried out on a disk in memory here (`performOn`).
-/

namespace PredicateOracle.CommandLine

/-- One thing that a program does. -/
inductive Action where
  /-- Prints a text and a line break. -/
  | say (text : String)
  /-- Prints a text and a line break where errors go. -/
  | complain (text : String)
  /-- Makes a directory and writes a file in it. -/
  | store (directory name content : String)
  deriving DecidableEq, Repr

/-- What a program does in the end, and its exit code. -/
structure Ending where
  actions : List Action
  exit : Nat
  deriving DecidableEq, Repr

/-- The exit code of a program that found a bug. -/
def exitBug : Nat := 1

/-- The exit code of a program that failed. -/
def exitFatal : Nat := 2

/-- An ending that prints lines and is a success. -/
def Ending.lines (texts : List String) : Ending := ⟨texts.map .say, 0⟩

/-- An ending that complains with causes from the outermost inwards. -/
def Ending.failure (plain : Bool) (causes : List String) : Ending :=
  ⟨[.complain (errorLine plain (Text.join ": " causes))], exitFatal⟩

/-- The exit code of a program that met a fault of its own. -/
def exitFault : Nat := 101

/-- The ending of a program that met a fault of its own. -/
def Ending.fault (f : Fault) : Ending := ⟨[.complain f.message], exitFault⟩

/-- Why a file is not stored. -/
inductive StoreError where
  | directory (path : String) (error : FileError)
  | file (path : String) (error : FileError)
  deriving DecidableEq, Repr

/-- The messages of the error, from the outermost cause inwards. -/
def StoreError.causes : StoreError → List String
  | .directory path error => ["Failed to create report directory " ++ path, error.message]
  | .file path error => ["Failed to write " ++ path, error.message]

/-! ## On a disk -/

/-- What was printed, what is on the disk, and the exit code. -/
structure Trace where
  output : List String
  errors : List String
  disk : Disk
  exit : Nat

/-- Stores a file in a directory that is made first. -/
def storeOn (d : Disk) (cwd : Place) (directory name content : String) : Except StoreError Disk :=
  match d.makeDirectory cwd directory with
  | .error e => .error (.directory directory e)
  | .ok d =>
    match d.write cwd (Path.join directory name) content with
    | .error e => .error (.file (Path.join directory name) e)
    | .ok d => .ok d

/-- Carries out actions on a disk. -/
def performOn (plain : Bool) (cwd : Place) (d : Disk) (exit : Nat) : List Action → Trace
  | [] => ⟨[], [], d, exit⟩
  | .say text :: rest =>
    let o := performOn plain cwd d exit rest
    { o with output := text :: o.output }
  | .complain text :: rest =>
    let o := performOn plain cwd d exit rest
    { o with errors := text :: o.errors }
  | .store directory name content :: rest =>
    match storeOn d cwd directory name content with
    | .ok d => performOn plain cwd d exit rest
    | .error e => ⟨[], [errorLine plain (Text.join ": " e.causes)], d, exitFatal⟩

end PredicateOracle.CommandLine
