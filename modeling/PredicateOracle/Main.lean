import PredicateOracle.CommandLine.Program
import PredicateOracle.Engine.Script

/-!
# PredicateOracle.Main -- the program

Finds files, the environment and the time, hands them to `CommandLine`, and carries out the actions
that come back. Everything is decided there. No engine is linked in: databases are kept by an engine
that accepts every statement and has no tables.
-/

namespace PredicateOracle.Main

open CommandLine

/-- The reason for a failed request to the file system. -/
def fileError : IO.Error → FileError
  | .noFileOrDirectory _ _ _ => .notFound
  | .alreadyExists _ _ _ => .exists
  | .inappropriateType _ code details =>
    if code = 20 then .notDirectory else if code = 21 then .isDirectory else .other details
  | e => .other (toString e)

/-- Runs a request to the file system. -/
def attempt {α : Type} (request : IO α) : IO (Except FileError α) := do
  try
    return .ok (← request)
  catch e =>
    return .error (fileError e)

/-- The environment, which is a file of its own here. -/
def readEnvironment : IO Environment := do
  let text ← attempt (IO.FS.readFile "/proc/self/environ")
  return ((text.toOption.getD "").splitOn "\x00").filterMap fun entry =>
    match entry.splitOn "=" with
    | name :: value :: rest => some (name, Text.join "=" (value :: rest))
    | _ => none

/-- The file of the user. -/
def userFile (environment : Environment) : String :=
  let base := match environment.find? fun (name, path) =>
      name = "XDG_CONFIG_HOME" && Path.isAbsolute path with
    | some (_, path) => path
    | none => Path.join (((environment.find? (·.1 = "HOME")).map (·.2)).getD "/") ".config"
  Path.join base Locations.userFile

/-- Reads the files of a configuration. -/
def readSources (l : Locations) (environment : Environment) : IO Sources := do
  let file (path : String) : IO (Option String) := do
    return (← attempt (IO.FS.readFile path)).toOption
  let explicit ← l.explicit.mapM fun (path : String) => do
    return (path, ← attempt (IO.FS.readFile path))
  return ⟨← file l.user, ← file (l.inProject Locations.projectFile),
    ← file (l.inProject Locations.personalFile), explicit, environment⟩

/-- Stores a file in a directory that is made first. -/
def store (directory name content : String) : IO (Except StoreError Unit) := do
  let path := Path.join directory name
  match ← attempt (IO.FS.createDirAll directory) with
  | .error e => return .error (.directory directory e)
  | .ok () => return (← attempt (IO.FS.writeFile path content)).mapError (.file path)

/-- Carries out actions; the answer is the exit code. -/
def perform (plain : Bool) (exit : Nat) : List Action → IO UInt32
  | [] => return UInt32.ofNat exit
  | .say text :: rest => do
    IO.println text
    perform plain exit rest
  | .complain text :: rest => do
    IO.eprintln text
    perform plain exit rest
  | .store directory name content :: rest => do
    match ← store directory name content with
    | .ok () => perform plain exit rest
    | .error e =>
      IO.eprintln (errorLine plain (Text.join ": " e.causes))
      return UInt32.ofNat exitFatal

/-- Carries out a run and takes its time. -/
def performRun (plain : Bool) (f : RunFlags) (s : Sources) (around : Surroundings Script.State) :
    IO UInt32 :=
  match f.prepare s around.directory with
  | .error causes => do
    let e := Ending.failure plain causes
    perform plain e.exit e.actions
  | .ok c => do
    let seed := seedOf c around.fresh
    IO.println (openingLine plain c seed)
    let start ← IO.monoMsNow
    let result ← IO.lazyPure fun _ => Run.run c around.fleet around.started seed
    let stop ← IO.monoMsNow
    let e := resultEnding plain c (result.map Prod.fst) (elapsedText (stop - start))
    perform plain e.exit e.actions

/-- Carries out a command. -/
def performInvocation (i : Invocation) : IO UInt32 := do
  let directory := (← IO.currentDir).toString
  let environment ← readEnvironment
  let plain := i.isPlain environment
  let sources ← readSources ⟨directory, userFile environment, i.command.config?⟩ environment
  let fresh := (← IO.getRandomBytes 8).foldl (fun n b => n * 256 + b.toUInt64) 0
  let fleet : Fleet Script.State := ⟨Script.connection.backend, Script.empty.connect⟩
  let started := (← IO.monoMsNow) / 1000
  let around : Surroundings Script.State := ⟨directory, environment, fleet, fresh, started⟩
  match i.command with
  | .run f => performRun plain f sources around
  | command =>
    let e := command.ending plain sources around ""
    perform plain e.exit e.actions

end PredicateOracle.Main

open PredicateOracle in
/-- Reads the arguments and carries out what they ask for. -/
def main (args : List String) : IO UInt32 :=
  match CommandLine.Invocation.ofArguments args with
  | .ok i => Main.performInvocation i
  | .error stop => Main.perform true stop.ending.exit stop.ending.actions
